import Mathlib.Data.List.Basic
import MonoioTungstenite.Error
import MonoioTungstenite.Lib.Bytes
import MonoioTungstenite.Lib.Utf8
import MonoioTungstenite.Mask

/-! # Frames

`protocol/frame/frame.rs`: frames, their headers, and the parser and the formatter of headers.

Lengths that the source keeps in a `u64` are natural numbers below `2 ^ 64`.  A `Cursor` is the byte
slice together with the position of the next byte. -/

namespace MonoioTungstenite

/-- `Utf8Bytes`: the bytes of a text.  That they are UTF-8 is a theorem about the code that builds
them, not a condition of the type: the source has an unchecked constructor. -/
structure Utf8Bytes where
  bytes : List UInt8
  deriving DecidableEq, Repr

/-- `impl TryFrom<Bytes> for Utf8Bytes` -/
def Utf8Bytes.tryFrom (bytes : List UInt8) : Except Error Utf8Bytes :=
  match Lib.Utf8.fromUtf8 bytes with
  | .ok _ => .ok ⟨bytes⟩
  | .error _ => .error (.Utf8 .basic)

/-- A struct representing the close command. -/
structure CloseFrame where
  code : CloseCode
  reason : Utf8Bytes
  deriving DecidableEq, Repr

/-- A struct representing a WebSocket frame header. -/
structure FrameHeader where
  isFinal : Bool
  rsv1 : Bool
  rsv2 : Bool
  rsv3 : Bool
  opcode : OpCode
  mask : Option Mask
  deriving DecidableEq, Repr

/-- `impl Default for FrameHeader` -/
def FrameHeader.default : FrameHeader where
  isFinal := true
  rsv1 := false
  rsv2 := false
  rsv3 := false
  opcode := .Control .Close
  mask := none

/-- A struct representing a WebSocket frame. -/
structure Frame where
  header : FrameHeader
  payload : List UInt8
  deriving DecidableEq, Repr

/-! ## Handling of the length format -/

inductive LengthFormat where
  | U8 (byte : UInt8)
  | U16
  | U64
  deriving DecidableEq, Repr

namespace LengthFormat

def forLength (length : Nat) : LengthFormat :=
  if length < 126 then .U8 (UInt8.ofNat length)
  else if length < 65536 then .U16
  else .U64

def extraBytes : LengthFormat → Nat
  | .U8 _ => 0
  | .U16 => 2
  | .U64 => 8

def lengthByte : LengthFormat → UInt8
  | .U8 byte => byte
  | .U16 => 126
  | .U64 => 127

def forByte (byte : UInt8) : LengthFormat :=
  if byte &&& 0x7F = 126 then .U16
  else if byte &&& 0x7F = 127 then .U64
  else .U8 (byte &&& 0x7F)

end LengthFormat

/-! ## Reading a header -/

/-- `std::io::Cursor` over a byte slice. -/
structure Cursor where
  bytes : List UInt8
  position : Nat
  deriving DecidableEq, Repr

namespace Cursor

def remaining (cursor : Cursor) : List UInt8 := cursor.bytes.drop cursor.position

def advance (cursor : Cursor) (count : Nat) : Cursor := { cursor with position := cursor.position + count }

/-- `Read::read` into a buffer of `count` bytes: as many of them as there are. -/
def read (count : Nat) (cursor : Cursor) : List UInt8 × Cursor :=
  let chunk := cursor.remaining.take count
  (chunk, cursor.advance chunk.length)

/-- `Read::read_exact`; `none` is the error `UnexpectedEof`. -/
def readExact (count : Nat) (cursor : Cursor) : Option (List UInt8) × Cursor :=
  if cursor.remaining.length < count then
    (none, { cursor with position := max cursor.position cursor.bytes.length })
  else
    (some (cursor.remaining.take count), cursor.advance count)

end Cursor

namespace FrameHeader

/-- The length field of a header whose second byte is `second`. -/
def readLength (second : UInt8) (cursor : Cursor) : Result (Option Nat) × Cursor :=
  let lengthByte := second &&& 0x7F
  let lengthLength := (LengthFormat.forByte lengthByte).extraBytes
  if 0 < lengthLength then
    if 8 < lengthLength then (.panic .lengthExceedsU64, cursor)
    else
      match cursor.readExact lengthLength with
      | (none, cursor) => (.ok none, cursor)
      | (some buffer, cursor) => (.ok (some (Lib.ofBe buffer)), cursor)
  else (.ok (some lengthByte.toNat), cursor)

/-- The mask field of a header whose second byte is `second`; the outer `none` is a cut header. -/
def readMask (second : UInt8) (cursor : Cursor) : Option (Option Mask) × Cursor :=
  if second &&& 0x80 ≠ 0 then
    match cursor.read 4 with
    | ([b0, b1, b2, b3], cursor) => (some (some ⟨b0, b1, b2, b3⟩), cursor)
    | (_, cursor) => (none, cursor)
  else (some none, cursor)

/-- Internal parse engine: `none` if insufficient data, otherwise the header and the payload size. -/
def parseInternal (cursor : Cursor) : Result (Option (FrameHeader × Nat)) × Cursor :=
  match cursor.read 2 with
  | ([first, second], cursor) =>
    match OpCode.ofU8 (first &&& 0x0F) with
    | none => (.panic .opcodeOutOfRange, cursor)
    | some opcode =>
      Lib.andThen (readLength second cursor) fun length cursor =>
        match length with
        | none => (.ok none, cursor)
        | some length =>
          match readMask second cursor with
          | (none, cursor) => (.ok none, cursor)
          | (some mask, cursor) =>
            if opcode.isReserved then (.err (.Protocol (.InvalidOpcode (first &&& 0x0F))), cursor)
            else
              let header := {
                isFinal := first &&& 0x80 ≠ 0
                rsv1 := first &&& 0x40 ≠ 0
                rsv2 := first &&& 0x20 ≠ 0
                rsv3 := first &&& 0x10 ≠ 0
                opcode
                mask }
              (.ok (some (header, length)), cursor)
  | (_, cursor) => (.ok none, cursor)

/-- Parses a header; consumes nothing if there is insufficient data. -/
def parse (cursor : Cursor) : Result (Option (FrameHeader × Nat)) × Cursor :=
  match parseInternal cursor with
  -- only the position of a cursor ever changes: setting it back gives the cursor itself
  | (.ok none, _) => (.ok none, cursor)
  | ret => ret

/-! ## Writing a header -/

/-- The longest possible header. -/
def MAX_SIZE : Nat := 14

/-- The size of the header formatted with given payload length. -/
def len (header : FrameHeader) (length : Nat) : Nat :=
  2 + (LengthFormat.forLength length).extraBytes + if header.mask.isSome then 4 else 0

/-- The first byte of a formatted header. -/
def firstByte (header : FrameHeader) : UInt8 :=
  header.opcode.toU8 ||| (if header.isFinal then 0x80 else 0) ||| (if header.rsv1 then 0x40 else 0) |||
    (if header.rsv2 then 0x20 else 0) ||| (if header.rsv3 then 0x10 else 0)

/-- The second byte of a formatted header. -/
def secondByte (header : FrameHeader) (length : Nat) : UInt8 :=
  (LengthFormat.forLength length).lengthByte ||| (if header.mask.isSome then 0x80 else 0)

/-- Formats a header for given payload size. -/
def format (header : FrameHeader) (length : Nat) (output : List UInt8) : List UInt8 :=
  let output := output ++ [header.firstByte, header.secondByte length]
  let output :=
    match LengthFormat.forLength length with
    | .U8 _ => output
    | .U16 => output ++ Lib.toBe 2 length
    | .U64 => output ++ Lib.toBe 8 length
  match header.mask with
  | some mask => output ++ mask.toList
  | none => output

end FrameHeader

/-! ## Frames -/

namespace Frame

/-- The length of the header and the payload. -/
def len (frame : Frame) : Nat := frame.header.len frame.payload.length + frame.payload.length

def isMasked (frame : Frame) : Bool := frame.header.mask.isSome

/-- `set_random_mask`, with the mask that `generate_mask` came up with. -/
def setRandomMask (frame : Frame) (mask : Mask) : Frame :=
  { frame with header := { frame.header with mask := some mask } }

/-- Consumes the frame into its payload as string. -/
def intoText (frame : Frame) : Except Error Utf8Bytes := Utf8Bytes.tryFrom frame.payload

/-- Consumes the frame into a closing frame. -/
def intoClose (frame : Frame) : Except Error (Option CloseFrame) :=
  match frame.payload with
  | [] => .ok none
  | [_] => .error (.Protocol .InvalidCloseSequence)
  | high :: low :: rest =>
    match Utf8Bytes.tryFrom rest with
    | .ok reason => .ok (some ⟨CloseCode.ofU16 (UInt16.ofNat (Lib.ofBe [high, low])), reason⟩)
    | .error error => .error error

/-- Creates a new data frame. -/
def message (data : List UInt8) (opcode : OpCode) (isFinal : Bool) : Frame :=
  ⟨{ FrameHeader.default with isFinal, opcode }, data⟩

/-- Creates a new Pong control frame. -/
def pong (data : List UInt8) : Frame := ⟨{ FrameHeader.default with opcode := .Control .Pong }, data⟩

/-- Creates a new Ping control frame. -/
def ping (data : List UInt8) : Frame := ⟨{ FrameHeader.default with opcode := .Control .Ping }, data⟩

/-- Creates a new Close control frame. -/
def close (msg : Option CloseFrame) : Frame :=
  match msg with
  | some ⟨code, reason⟩ => ⟨FrameHeader.default, Lib.toBe 2 code.toU16.toNat ++ reason.bytes⟩
  | none => ⟨FrameHeader.default, []⟩

/-- Writes a frame out to a buffer. -/
def format (frame : Frame) (output : List UInt8) : List UInt8 :=
  let output := frame.header.format frame.payload.length output
  match frame.header.mask with
  | some mask => output ++ applyMask frame.payload mask
  | none => output ++ frame.payload

end Frame

/-! ## What the parser does

The second byte of a header fixes its size.  Input is either cut inside the header (`parse_cut`) or
begins with the bytes of a whole one (`parse_whole`), and then what follows does not matter. -/

namespace Cursor

@[simp] theorem bytes_advance (cursor : Cursor) (count : Nat) : (cursor.advance count).bytes = cursor.bytes := rfl

@[simp] theorem position_advance (cursor : Cursor) (count : Nat) :
    (cursor.advance count).position = cursor.position + count := rfl

theorem advance_advance (cursor : Cursor) (first second : Nat) :
    (cursor.advance first).advance second = cursor.advance (first + second) := by
  simp only [advance, Nat.add_assoc]

@[simp] theorem advance_zero (cursor : Cursor) : cursor.advance 0 = cursor := rfl

theorem read_of_split {cursor : Cursor} {chunk rest : List UInt8} {count : Nat}
    (remaining : cursor.remaining = chunk ++ rest) (whole : chunk.length = count) :
    cursor.read count = (chunk, cursor.advance count) := by
  subst whole
  simp only [read, remaining, List.take_left]

theorem readExact_of_split {cursor : Cursor} {chunk rest : List UInt8} {count : Nat}
    (remaining : cursor.remaining = chunk ++ rest) (whole : chunk.length = count) :
    cursor.readExact count = (some chunk, cursor.advance count) := by
  subst whole
  rw [readExact, if_neg (by simp [remaining]), remaining, List.take_left]

theorem remaining_advance {cursor : Cursor} {chunk rest : List UInt8} {count : Nat}
    (remaining : cursor.remaining = chunk ++ rest) (whole : chunk.length = count) :
    (cursor.advance count).remaining = rest := by
  subst whole
  have skipped : cursor.bytes.drop cursor.position = chunk ++ rest := remaining
  simp only [Cursor.remaining, advance, ← List.drop_drop, skipped, List.drop_left]

end Cursor

namespace FrameHeader

/-- The number of bytes of the length field. -/
def lengthSize (second : UInt8) : Nat := (LengthFormat.forByte (second &&& 0x7F)).extraBytes

/-- The number of bytes of the mask field. -/
def maskSize (second : UInt8) : Nat := if second &&& 0x80 ≠ 0 then 4 else 0

/-- The number of bytes of a header, as its second byte fixes it. -/
def sizeOf (second : UInt8) : Nat := 2 + lengthSize second + maskSize second

theorem lengthSize_le (second : UInt8) : lengthSize second ≤ 8 := by
  unfold lengthSize
  cases LengthFormat.forByte (second &&& 0x7F) <;> simp [LengthFormat.extraBytes]

/-- The payload size a whole header declares. -/
def declaredLength (second : UInt8) (lengthField : List UInt8) : Nat :=
  if 0 < lengthSize second then Lib.ofBe lengthField else (second &&& 0x7F).toNat

theorem readLength_whole {second : UInt8} {cursor : Cursor} {lengthField rest : List UInt8}
    (remaining : cursor.remaining = lengthField ++ rest) (whole : lengthField.length = lengthSize second) :
    readLength second cursor =
      (.ok (some (declaredLength second lengthField)), cursor.advance (lengthSize second)) := by
  have bound := lengthSize_le second
  unfold readLength
  by_cases long : 0 < lengthSize second
  · have small : ¬ 8 < lengthSize second := by omega
    simp only [lengthSize] at long small whole
    simp only [long, small, if_true, if_false, Cursor.readExact_of_split remaining whole, declaredLength,
      lengthSize]
  · have empty : lengthSize second = 0 := by omega
    simp only [declaredLength, empty, Cursor.advance_zero]
    exact if_neg long

theorem readLength_cut (second : UInt8) (cursor : Cursor)
    (short : cursor.remaining.length < lengthSize second) :
    ∃ stopped, readLength second cursor = (.ok none, stopped) := by
  have bound := lengthSize_le second
  have long : 0 < lengthSize second := by omega
  have small : ¬ 8 < lengthSize second := by omega
  simp only [lengthSize] at long small short
  simp only [readLength, long, small, if_true, if_false, Cursor.readExact, short]
  exact ⟨_, rfl⟩

/-- The mask a whole header carries. -/
def declaredMask : List UInt8 → Option Mask
  | [b0, b1, b2, b3] => some ⟨b0, b1, b2, b3⟩
  | _ => none

theorem readMask_whole {second : UInt8} {cursor : Cursor} {maskField rest : List UInt8}
    (remaining : cursor.remaining = maskField ++ rest) (whole : maskField.length = maskSize second) :
    readMask second cursor =
      (some (declaredMask maskField), cursor.advance (maskSize second)) := by
  unfold readMask
  by_cases masked : second &&& 0x80 ≠ 0
  · rw [maskSize, if_pos masked] at whole
    rw [if_pos masked, Cursor.read_of_split remaining whole, maskSize, if_pos masked]
    obtain ⟨_, _, _, _, rfl⟩ := List.length_eq_four.mp whole
    rfl
  · rw [maskSize, if_neg masked] at whole
    rw [if_neg masked, maskSize, if_neg masked, List.length_eq_zero_iff.mp whole]
    rfl

theorem readMask_cut (second : UInt8) (cursor : Cursor)
    (short : cursor.remaining.length < maskSize second) :
    ∃ stopped, readMask second cursor = (none, stopped) := by
  have masked : second &&& 0x80 ≠ 0 := by
    intro unmasked
    simp [maskSize, unmasked] at short
  rw [maskSize, if_pos masked] at short
  have few : (cursor.read 4).1.length < 4 := by
    simp only [Cursor.read, List.length_take]
    omega
  rw [readMask, if_pos masked]
  split
  next read => rw [read] at few; simp at few
  next stopped _ => exact ⟨_, rfl⟩

/-- The bytes of a whole header. -/
structure HeaderBytes where
  first : UInt8
  second : UInt8
  lengthField : List UInt8
  maskField : List UInt8
  wholeLength : lengthField.length = lengthSize second
  wholeMask : maskField.length = maskSize second

namespace HeaderBytes

def toList (bytes : HeaderBytes) : List UInt8 :=
  [bytes.first, bytes.second] ++ (bytes.lengthField ++ bytes.maskField)

def opcode (bytes : HeaderBytes) : OpCode :=
  (OpCode.ofU8 (bytes.first &&& 0x0F)).get (OpCode.ofU8_low_isSome bytes.first)

/-- The header these bytes stand for. -/
def header (bytes : HeaderBytes) : FrameHeader where
  isFinal := bytes.first &&& 0x80 ≠ 0
  rsv1 := bytes.first &&& 0x40 ≠ 0
  rsv2 := bytes.first &&& 0x20 ≠ 0
  rsv3 := bytes.first &&& 0x10 ≠ 0
  opcode := bytes.opcode
  mask := declaredMask bytes.maskField

/-- The payload size these bytes declare. -/
def length (bytes : HeaderBytes) : Nat := declaredLength bytes.second bytes.lengthField

theorem length_toList (bytes : HeaderBytes) : bytes.toList.length = sizeOf bytes.second := by
  simp only [toList, sizeOf, List.length_append, bytes.wholeLength, bytes.wholeMask, List.length_cons,
    List.length_nil]
  omega

theorem ofU8_eq (bytes : HeaderBytes) : OpCode.ofU8 (bytes.first &&& 0x0F) = some bytes.opcode :=
  (Option.some_get _).symm

end HeaderBytes

theorem parseInternal_whole {cursor : Cursor} {bytes : HeaderBytes} {rest : List UInt8}
    (remaining : cursor.remaining = bytes.toList ++ rest) :
    parseInternal cursor =
      (if bytes.opcode.isReserved then .err (.Protocol (.InvalidOpcode (bytes.first &&& 0x0F)))
        else .ok (some (bytes.header, bytes.length)), cursor.advance bytes.toList.length) := by
  rw [bytes.length_toList]
  have atHead : cursor.remaining =
      [bytes.first, bytes.second] ++ (bytes.lengthField ++ (bytes.maskField ++ rest)) := by
    simpa [HeaderBytes.toList] using remaining
  have two : [bytes.first, bytes.second].length = 2 := rfl
  have behindHead := Cursor.remaining_advance atHead two
  have behindLength := Cursor.remaining_advance behindHead bytes.wholeLength
  simp only [parseInternal, Cursor.read_of_split atHead two, bytes.ofU8_eq,
    readLength_whole behindHead bytes.wholeLength, Lib.andThen_ok,
    readMask_whole behindLength bytes.wholeMask]
  simp only [Cursor.advance_advance, sizeOf, Nat.add_assoc]
  split <;> rfl

theorem parse_whole (cursor : Cursor) {bytes : HeaderBytes} {rest : List UInt8}
    (remaining : cursor.remaining = bytes.toList ++ rest) :
    parse cursor =
      (if bytes.opcode.isReserved then .err (.Protocol (.InvalidOpcode (bytes.first &&& 0x0F)))
        else .ok (some (bytes.header, bytes.length)), cursor.advance bytes.toList.length) := by
  rw [parse, parseInternal_whole remaining]
  by_cases reserved : bytes.opcode.isReserved
  · simp only [reserved, if_true]
  · rw [if_neg reserved]

/-- There are fewer bytes than a header has. -/
def IsCut : List UInt8 → Prop
  | _ :: second :: rest => rest.length + 2 < sizeOf second
  | _ => True

/-- Bytes that are not a cut header begin with a whole one. -/
theorem exists_whole {input : List UInt8} (notCut : ¬ IsCut input) :
    ∃ (bytes : HeaderBytes) (rest : List UInt8), input = bytes.toList ++ rest := by
  match input with
  | [] | [_] => exact absurd trivial notCut
  | first :: second :: rest =>
    simp only [IsCut, sizeOf] at notCut
    let behind := rest.drop (lengthSize second)
    refine ⟨⟨first, second, rest.take (lengthSize second), behind.take (maskSize second), ?_, ?_⟩,
      behind.drop (maskSize second), ?_⟩
    · rw [List.length_take]
      omega
    · rw [List.length_take, List.length_drop]
      omega
    · simp only [HeaderBytes.toList, List.append_assoc, List.take_append_drop, behind]
      rfl

theorem parse_of_none {cursor : Cursor} (short : (parseInternal cursor).1 = .ok none) :
    parse cursor = (.ok none, cursor) := by
  rcases parsed : parseInternal cursor with ⟨result, stopped⟩
  rw [parsed] at short
  cases short
  rw [parse, parsed]

theorem parse_cut (cursor : Cursor) (cut : IsCut cursor.remaining) : parse cursor = (.ok none, cursor) := by
  apply parse_of_none
  match remaining : cursor.remaining with
  | [] | [_] =>
    have few : (cursor.read 2).1.length < 2 := by
      simp [Cursor.read, remaining]
    unfold parseInternal
    split
    next read => rw [read] at few; simp at few
    next => rfl
  | first :: second :: rest =>
    rw [remaining] at cut
    have short : rest.length + 2 < sizeOf second := cut
    have atHead : cursor.remaining = [first, second] ++ rest := remaining
    have two : [first, second].length = 2 := rfl
    have behindHead := Cursor.remaining_advance atHead two
    obtain ⟨opcode, converted⟩ := Option.isSome_iff_exists.mp (OpCode.ofU8_low_isSome first)
    simp only [parseInternal, Cursor.read_of_split atHead two, converted]
    -- cut in the length field, or in the mask behind it
    by_cases cutLength : rest.length < lengthSize second
    · obtain ⟨stopped, cutThere⟩ := readLength_cut second (cursor.advance 2) (by rwa [behindHead])
      rw [cutThere]
      rfl
    · have split : rest = rest.take (lengthSize second) ++ rest.drop (lengthSize second) :=
        (List.take_append_drop _ _).symm
      have wholeLength : (rest.take (lengthSize second)).length = lengthSize second := by
        rw [List.length_take]
        omega
      rw [split] at behindHead
      have behindLength := Cursor.remaining_advance behindHead wholeLength
      obtain ⟨stopped, cutThere⟩ := readMask_cut second ((cursor.advance 2).advance (lengthSize second))
        (by rw [behindLength, List.length_drop]; simp only [sizeOf] at short; omega)
      rw [readLength_whole behindHead wholeLength, Lib.andThen_ok]
      simp only [cutThere]

end FrameHeader

end MonoioTungstenite
