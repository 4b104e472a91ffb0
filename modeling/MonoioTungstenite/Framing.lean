import MonoioTungstenite.Codec

/-! # The frames on the wire

`wire` cuts a stream of bytes into frames, by what their headers declare.  A reader keeps in step with it
(`next_inStep`): what comes out of it are the frames of the bytes it has taken in, one after the other, until it
returns an error. -/

namespace MonoioTungstenite

/-- A frame on the wire, of which the payload may still be cut. -/
structure WireFrame where
  header : FrameHeader
  length : Nat
  payload : List UInt8
  deriving DecidableEq, Repr

/-- All of the payload is there. -/
def WireFrame.whole (frame : WireFrame) : Bool := frame.payload.length = frame.length

/-- How a server or a client takes the mask off. -/
structure Unmasking where
  unmask : Bool
  acceptUnmasked : Bool
  deriving DecidableEq, Repr

def FrameDecoder.unmasking (decoder : FrameDecoder) : Unmasking := ⟨decoder.unmask, decoder.acceptUnmasked⟩

/-- What becomes of a frame: it is handed out with its mask taken off, or refused for want of one. -/
def WireFrame.arrival (unmasking : Unmasking) (frame : WireFrame) : Arrival :=
  match FrameDecoder.finish ⟨none, none, unmasking.unmask, unmasking.acceptUnmasked⟩ frame.header frame.payload with
  | .ok frame => .frame frame
  | .error error => .refused (some frame.header) error

/-- Cuts bytes into frames, up to bytes that are no header. -/
def wire : Nat → List UInt8 → List WireFrame
  | 0, _ => []
  | fuel + 1, bytes =>
    match FrameHeader.parse ⟨bytes, 0⟩ with
    | (.ok (some (header, length)), cursor) =>
      let rest := bytes.drop cursor.position
      ⟨header, length, rest.take length⟩ :: wire fuel (rest.drop length)
    | _ => []

/-- The frames of a stream of bytes; every header takes a byte at least. -/
def framesOf (bytes : List UInt8) : List WireFrame := wire bytes.length bytes

/-- The whole frames of a stream of bytes, as they come out of a decoder. -/
def arrivals (unmasking : Unmasking) (bytes : List UInt8) : List Arrival :=
  ((framesOf bytes).filter WireFrame.whole).map (WireFrame.arrival unmasking)

/-- A payload of this length keeps to the limit, if there is one. -/
def Within (maxFrameSize : Option Nat) (length : Nat) : Prop := ∀ maxSize ∈ maxFrameSize, length ≤ maxSize

instance (maxFrameSize : Option Nat) (length : Nat) : Decidable (Within maxFrameSize length) :=
  inferInstanceAs (Decidable (∀ maxSize ∈ maxFrameSize, length ≤ maxSize))

/-- A decoder takes a payload of this length. -/
def Takes (target : Target) (maxFrameSize : Option Nat) (length : Nat) : Prop :=
  length ≤ target.usizeMax ∧ Within maxFrameSize length

instance (target : Target) (maxFrameSize : Option Nat) (length : Nat) :
    Decidable (Takes target maxFrameSize length) :=
  inferInstanceAs (Decidable (_ ∧ Within maxFrameSize length))

/-! ## Whole frames -/

/-- The bytes of whole frames. -/
inductive Frames : List UInt8 → List WireFrame → Prop
  | nil : Frames [] []
  | snoc {bytes payload : List UInt8} {frames : List WireFrame} {head : FrameHeader.HeaderBytes}
    (before : Frames bytes frames) (known : head.opcode.isReserved = false) (whole : payload.length = head.length) :
    Frames (bytes ++ (head.toList ++ payload)) (frames ++ [⟨head.header, head.length, payload⟩])

theorem wire_cons (fuel : Nat) {head : FrameHeader.HeaderBytes} (known : head.opcode.isReserved = false)
    (rest : List UInt8) :
    wire (fuel + 1) (head.toList ++ rest) =
      ⟨head.header, head.length, rest.take head.length⟩ :: wire fuel (rest.drop head.length) := by
  rw [wire, FrameHeader.parse_whole ⟨head.toList ++ rest, 0⟩ rfl, if_neg (by rw [known]; exact Bool.false_ne_true)]
  simp only [Cursor.advance, Nat.zero_add, List.drop_left]

theorem Frames.wire {bytes : List UInt8} {frames : List WireFrame} (whole : Frames bytes frames) (fuel : Nat)
    (rest : List UInt8) :
    MonoioTungstenite.wire (frames.length + fuel) (bytes ++ rest) = frames ++ MonoioTungstenite.wire fuel rest := by
  induction whole generalizing fuel rest with
  | nil => simp
  | @snoc bytes payload frames head before known whole inductionHypothesis =>
    have again := inductionHypothesis (fuel + 1) (head.toList ++ (payload ++ rest))
    rw [wire_cons fuel known, ← whole, List.take_left, List.drop_left] at again
    simpa [whole, Nat.add_assoc, Nat.add_comm 1] using again

theorem Frames.length_le {bytes : List UInt8} {frames : List WireFrame} (whole : Frames bytes frames) :
    frames.length ≤ bytes.length := by
  induction whole with
  | nil => exact Nat.le_refl _
  | snoc before known whole inductionHypothesis =>
    simp only [List.length_append, FrameHeader.HeaderBytes.length_toList, FrameHeader.sizeOf, List.length_singleton]
    omega

theorem Frames.framesOf {bytes : List UInt8} {frames : List WireFrame} (whole : Frames bytes frames)
    (rest : List UInt8) : ∃ fuel, rest.length ≤ fuel ∧ framesOf (bytes ++ rest) = frames ++ MonoioTungstenite.wire fuel rest := by
  have short := whole.length_le
  refine ⟨bytes.length + rest.length - frames.length, by omega, ?_⟩
  rw [← whole.wire, MonoioTungstenite.framesOf, List.length_append]
  congr 1
  omega

theorem Frames.all_whole {bytes : List UInt8} {frames : List WireFrame} (whole : Frames bytes frames) :
    ∀ frame ∈ frames, frame.whole = true := by
  induction whole with
  | nil => exact fun _ => nofun
  | snoc before known whole inductionHypothesis =>
    intro frame found
    rcases List.mem_append.mp found with old | new
    · exact inductionHypothesis frame old
    · rw [List.mem_singleton.mp new]
      exact decide_eq_true whole

/-- Whole frames come out of a decoder first. -/
theorem Frames.arrivals {bytes : List UInt8} {frames : List WireFrame} (whole : Frames bytes frames)
    (unmasking : Unmasking) (rest : List UInt8) :
    frames.map (WireFrame.arrival unmasking) <+: MonoioTungstenite.arrivals unmasking (bytes ++ rest) := by
  obtain ⟨fuel, _, split⟩ := whole.framesOf rest
  rw [MonoioTungstenite.arrivals, split, List.filter_append, List.map_append,
    List.filter_eq_self.mpr whole.all_whole]
  exact List.prefix_append _ _

/-! ## The decoder -/

/-- The header of the frame behind whole frames is one that the whole stream declares. -/
theorem Frames.next_mem {bytes : List UInt8} {frames : List WireFrame} (whole : Frames bytes frames)
    {head : FrameHeader.HeaderBytes} (known : head.opcode.isReserved = false) (rest : List UInt8) :
    ∃ frame ∈ MonoioTungstenite.framesOf (bytes ++ (head.toList ++ rest)), frame.length = head.length := by
  obtain ⟨fuel, enough, split⟩ := whole.framesOf (head.toList ++ rest)
  obtain ⟨fuel, rfl⟩ : ∃ less, fuel = less + 1 := by
    refine ⟨fuel - 1, ?_⟩
    simp only [List.length_append, FrameHeader.HeaderBytes.length_toList, FrameHeader.sizeOf] at enough
    omega
  rw [split, wire_cons fuel known]
  exact ⟨_, List.mem_append_right _ List.mem_cons_self, rfl⟩

/-- The reader has handed out these frames of what it has taken in, and has the rest in its buffer. -/
def Handed (reader : FramedRead) (frames : List WireFrame) : Prop :=
  ∃ done, Frames done frames ∧ reader.decoder.header = none ∧ reader.received = done ++ reader.buffer

/-- The same, or the decoder has taken the header of the next frame. -/
def InStep (reader : FramedRead) (frames : List WireFrame) : Prop :=
  Handed reader frames ∨
    ∃ done, Frames done frames ∧ ∃ head : FrameHeader.HeaderBytes, head.opcode.isReserved = false ∧
      Within reader.decoder.maxFrameSize head.length ∧
      reader.decoder.header = some (head.header, head.length) ∧
      reader.received = done ++ (head.toList ++ reader.buffer)

/-- What a reader has taken in, less what is still in its buffer. -/
def FramedRead.consumed (reader : FramedRead) : List UInt8 :=
  reader.received.take (reader.received.length - reader.buffer.length)

theorem Handed.arrivals {reader : FramedRead} {frames : List WireFrame} (handed : Handed reader frames)
    (unmasking : Unmasking) :
    MonoioTungstenite.arrivals unmasking reader.consumed = frames.map (WireFrame.arrival unmasking) := by
  obtain ⟨done, whole, _, received⟩ := handed
  have consumed : reader.consumed = done ++ [] := by
    rw [FramedRead.consumed, received, List.length_append, Nat.add_sub_cancel, List.take_left, List.append_nil]
  obtain ⟨fuel, _, split⟩ := whole.framesOf []
  have none : MonoioTungstenite.wire fuel [] = [] := by cases fuel <;> rfl
  rw [consumed, MonoioTungstenite.arrivals, split, none, List.append_nil, List.filter_eq_self.mpr whole.all_whole]

/-- The configuration of the decoder has not changed. -/
structure SameConfig (before after : FrameDecoder) : Prop where
  unmasking : after.unmasking = before.unmasking
  maxFrameSize : after.maxFrameSize = before.maxFrameSize

/-- How a call of the decoder ends, in step with the frames on the wire. -/
inductive DecodedOn (reader : FramedRead) (frames : List WireFrame) :
    Result (Decoded Frame) × FrameDecoder × List UInt8 → Prop
  | waits {wants : Decoded Frame} {decoder : FrameDecoder} {buffer : List UInt8}
    (nothing : ∀ frame, wants ≠ .Some frame) (inStep : InStep { reader with decoder, buffer } frames)
    (config : SameConfig reader.decoder decoder) : DecodedOn reader frames (.ok wants, decoder, buffer)
  | frame {wireFrame : WireFrame} {frame : Frame} {decoder : FrameDecoder} {buffer : List UInt8}
    (within : Within reader.decoder.maxFrameSize wireFrame.length)
    (arrival : wireFrame.arrival reader.decoder.unmasking = .frame frame)
    (handed : Handed { reader with decoder, buffer } (frames ++ [wireFrame]))
    (config : SameConfig reader.decoder decoder) : DecodedOn reader frames (.ok (.Some frame), decoder, buffer)
  | refused {wireFrame : WireFrame} {decoder : FrameDecoder} {buffer : List UInt8}
    (arrival : wireFrame.arrival reader.decoder.unmasking =
      .refused (some wireFrame.header) (.Protocol .UnmaskedFrameFromClient))
    (handed : Handed { reader with decoder, buffer } (frames ++ [wireFrame]))
    (config : SameConfig reader.decoder decoder) :
    DecodedOn reader frames (.err (.Protocol .UnmaskedFrameFromClient), decoder, buffer)
  | unreadable {code : UInt8} :
    DecodedOn reader frames (.err (.Protocol (.InvalidOpcode code)), reader.decoder, reader.buffer)

theorem decodePayload_on {reader : FramedRead} {frames : List WireFrame} {decoder : FrameDecoder}
    {src done : List UInt8} {head : FrameHeader.HeaderBytes} (whole : Frames done frames)
    (known : head.opcode.isReserved = false) (within : Within reader.decoder.maxFrameSize head.length)
    (held : decoder.header = some (head.header, head.length))
    (received : reader.received = done ++ (head.toList ++ src)) (config : SameConfig reader.decoder decoder) :
    DecodedOn reader frames (decoder.decodePayload src) := by
  have decoded := FrameDecoder.decodePayload_decoded held src
  have handed : ∀ {payload rest : List UInt8}, src = payload ++ rest → payload.length = head.length →
      Handed { reader with decoder := { decoder with header := none }, buffer := rest }
        (frames ++ [⟨head.header, head.length, payload⟩]) := by
    intro payload rest split length
    refine ⟨_, .snoc whole known length, rfl, ?_⟩
    rw [received, split]
    simp
  have same : ∀ payload, WireFrame.arrival reader.decoder.unmasking ⟨head.header, head.length, payload⟩ =
      match { decoder with header := none }.finish head.header payload with
      | .ok frame => .frame frame
      | .error error => .refused (some head.header) error := by
    intro payload
    rw [← config.unmasking]
    rfl
  generalize decoder.decodePayload src = result at decoded
  cases decoded with
  | short =>
    have still : Within decoder.maxFrameSize head.length := config.maxFrameSize ▸ within
    exact .waits (fun _ => nofun) (.inr ⟨done, whole, head, known, still, held, received⟩) config
  | frame split length made =>
    exact .frame within ((same _).trans (by rw [made])) (handed split length) ⟨config.unmasking, config.maxFrameSize⟩
  | refused split length made =>
    exact .refused ((same _).trans (by rw [made])) (handed split length) ⟨config.unmasking, config.maxFrameSize⟩

/-- A length that the decoder takes is neither cut to the width of the machine nor refused. -/
theorem FrameDecoder.startFrame_takes {width : PointerWidth} {decoder : FrameDecoder} {length : Nat}
    (takes : Takes (.unlimited width) decoder.maxFrameSize length) (header : FrameHeader) (src : List UInt8) :
    decoder.startFrame (.unlimited width) header length src =
      decodePayload { decoder with header := some (header, length) } src := by
  have within : decoder.maxFrameSize.filter (· < length) = none := by
    rw [Option.filter_eq_none_iff]
    intro maxSize limit
    simpa using takes.2 maxSize limit
  rw [startFrame_unlimited, Target.asUsize_of_le takes.1, within]

/-- A length over the limit is refused. -/
theorem FrameDecoder.startFrame_refuses {width : PointerWidth} {decoder : FrameDecoder} {length : Nat}
    (fits : length ≤ (Target.unlimited width).usizeMax) (exceeds : ¬ Within decoder.maxFrameSize length)
    (header : FrameHeader) (src : List UInt8) :
    ∃ error, decoder.startFrame (.unlimited width) header length src = (.err error, decoder, src) := by
  simp only [Within, not_forall, Nat.not_le] at exceeds
  obtain ⟨maxSize, limit, less⟩ := exceeds
  rw [startFrame_unlimited, Target.asUsize_of_le fits, Option.mem_def.mp limit, Option.filter_some,
    if_pos (decide_eq_true less)]
  exact ⟨_, rfl⟩

/-- A decoder that waits for a header finds in it, if it is there, a length that it takes. -/
def TakesNext (width : PointerWidth) (decoder : FrameDecoder) (src : List UInt8) : Prop :=
  decoder.header = none → ∀ (head : FrameHeader.HeaderBytes) (rest : List UInt8), src = head.toList ++ rest →
    head.opcode.isReserved = false → Takes (.unlimited width) decoder.maxFrameSize head.length

theorem decode_on (width : PointerWidth) {reader : FramedRead} {frames : List WireFrame}
    (inStep : InStep reader frames) (takes : TakesNext width reader.decoder reader.buffer) :
    DecodedOn reader frames (reader.decoder.decode (.unlimited width) reader.buffer) := by
  rcases inStep with ⟨done, whole, fresh, received⟩ | ⟨done, whole, head, known, within, held, received⟩
  · by_cases cut : FrameHeader.IsCut reader.buffer
    · rw [FrameDecoder.decode_cut fresh cut, Target.unlimited_reserveFails, if_neg Bool.false_ne_true]
      exact .waits (fun _ => nofun) (.inl ⟨done, whole, fresh, received⟩) ⟨rfl, rfl⟩
    · obtain ⟨head, rest, split⟩ := FrameHeader.exists_whole cut
      have run := @FrameDecoder.decode_whole (.unlimited width) reader.decoder head rest fresh
      rw [← split] at run
      rw [run]
      cases known : head.opcode.isReserved with
      | true => exact .unreadable
      | false =>
        have taken := takes fresh head rest split known
        rw [if_neg Bool.false_ne_true, FrameDecoder.startFrame_takes taken]
        rw [split] at received
        exact decodePayload_on whole known taken.2 rfl received ⟨rfl, rfl⟩
  · rw [FrameDecoder.decode_pending held]
    exact decodePayload_on whole known within held received ⟨rfl, rfl⟩

/-- A header that comes up in the buffer is one that the stream declares. -/
theorem InStep.declares {reader : FramedRead} {frames : List WireFrame} (inStep : InStep reader frames)
    (fresh : reader.decoder.header = none) {head : FrameHeader.HeaderBytes} {rest : List UInt8}
    (split : reader.buffer = head.toList ++ rest) (known : head.opcode.isReserved = false) (more : List UInt8) :
    ∃ frame ∈ framesOf (reader.received ++ more), frame.length = head.length := by
  cases inStep with
  | inl handed =>
    obtain ⟨done, whole, _, received⟩ := handed
    rw [received, split, List.append_assoc, List.append_assoc]
    exact whole.next_mem known (rest ++ more)
  | inr pending =>
    obtain ⟨_, _, _, _, _, held, _⟩ := pending
    rw [held] at fresh
    cases fresh

/-- A decoder that is in step with the frames on the wire stays so, or it returns an error. -/
theorem decode_within (width : PointerWidth) {reader : FramedRead} {frames : List WireFrame}
    (inStep : InStep reader frames) {more : List UInt8}
    (fits : ∀ frame ∈ framesOf (reader.received ++ more), frame.length ≤ (Target.unlimited width).usizeMax) :
    DecodedOn reader frames (reader.decoder.decode (.unlimited width) reader.buffer) ∨
      ∃ error decoder buffer, reader.decoder.decode (.unlimited width) reader.buffer = (.err error, decoder, buffer) := by
  by_cases takes : TakesNext width reader.decoder reader.buffer
  · exact .inl (decode_on width inStep takes)
  · right
    simp only [TakesNext, not_forall] at takes
    obtain ⟨fresh, head, rest, split, known, refuses⟩ := takes
    obtain ⟨frame, found, same⟩ := inStep.declares fresh split known more
    have fitting : head.length ≤ (Target.unlimited width).usizeMax := same ▸ fits frame found
    have exceeds : ¬ Within reader.decoder.maxFrameSize head.length := fun within => refuses ⟨fitting, within⟩
    obtain ⟨error, refused⟩ := FrameDecoder.startFrame_refuses fitting exceeds head.header rest
    rw [split, FrameDecoder.decode_whole fresh, if_neg (by rw [known]; exact Bool.false_ne_true), refused]
    exact ⟨_, _, _, rfl⟩

/-! ## The reader -/

/-- More bytes in the buffer change nothing about the frames behind it. -/
theorem InStep.filled {reader : FramedRead} {frames : List WireFrame} (inStep : InStep reader frames)
    (more : List UInt8) (script : List ReadAction) :
    InStep { reader with buffer := reader.buffer ++ more, script, received := reader.received ++ more } frames := by
  rcases inStep with ⟨done, whole, fresh, received⟩ | ⟨done, whole, head, known, within, held, received⟩
  · exact .inl ⟨done, whole, fresh, by simp [received]⟩
  · exact .inr ⟨done, whole, head, known, within, held, by simp [received]⟩

theorem SameConfig.trans {first second third : FrameDecoder} (left : SameConfig first second)
    (right : SameConfig second third) : SameConfig first third :=
  ⟨right.unmasking.trans left.unmasking, right.maxFrameSize.trans left.maxFrameSize⟩

/-- How a call of the reader ends, in step with the frames on the wire unless it returns an error or loses bytes. -/
inductive CameOn (reader : FramedRead) (frames : List WireFrame) : Result (Option Frame) × FramedRead → Prop
  | waits {after : FramedRead} (goesOn : after.errored = false) (kept : after.lost = [] → InStep after frames)
    (config : SameConfig reader.decoder after.decoder) : CameOn reader frames (.pending, after)
  | eof {after : FramedRead} : CameOn reader frames (.ok none, after)
  | failed {error : Error} {after : FramedRead} (errored : after.errored = true) :
    CameOn reader frames (.err error, after)
  | frame {wireFrame : WireFrame} {frame : Frame} {after : FramedRead}
    (within : Within reader.decoder.maxFrameSize wireFrame.length)
    (arrival : wireFrame.arrival reader.decoder.unmasking = .frame frame)
    (goesOn : after.errored = false) (handed : Handed after (frames ++ [wireFrame]))
    (config : SameConfig reader.decoder after.decoder) : CameOn reader frames (.ok (some frame), after)

/-- An action that only fills the buffer or moves the decoder leaves the rest to the actions behind it. -/
theorem CameOn.behind {first reader : FramedRead} {frames : List WireFrame}
    {result : Result (Option Frame) × FramedRead} (came : CameOn reader frames result)
    (config : SameConfig first.decoder reader.decoder) : CameOn first frames result := by
  cases came with
  | waits goesOn kept same => exact .waits goesOn kept (config.trans same)
  | eof => exact .eof
  | failed errored => exact .failed errored
  | frame within arrival goesOn handed same =>
    exact .frame (config.maxFrameSize ▸ within) (config.unmasking ▸ arrival) goesOn handed (config.trans same)

/-- The actions take bytes off the stream, and no frame from elsewhere. -/
def FromWire (script : List ReadAction) : Prop := ∀ frame, ReadAction.frame frame ∉ script

theorem FromWire.tail {action : ReadAction} {script : List ReadAction} (fromWire : FromWire (action :: script)) :
    FromWire script := fun frame found => fromWire frame (List.mem_cons_of_mem _ found)

/-- The action brings bytes, or decodes them. -/
def ReadAction.isBytes : ReadAction → Bool
  | .fill _ | .decode => true
  | .frame _ | .eof | .fail _ => false

/-- The stream does not fail. -/
def Unfailing (script : List ReadAction) : Prop := ∀ error, ReadAction.fail error ∉ script

theorem Unfailing.tail {action : ReadAction} {script : List ReadAction} (unfailing : Unfailing (action :: script)) :
    Unfailing script := fun error found => unfailing error (List.mem_cons_of_mem _ found)

namespace FramedRead

/-- The record of what has been taken in only grows. -/
theorem run_received (target : Target) (script : List ReadAction) (reader : FramedRead) :
    reader.received <+: (run target script reader).2.received := by
  induction script generalizing reader with
  | nil => exact List.prefix_refl _
  | cons action script inductionHypothesis =>
    cases action with
    | fill chunk =>
      let filled : FramedRead :=
        { reader with buffer := reader.buffer ++ chunk, script, received := reader.received ++ chunk }
      exact (List.prefix_append reader.received chunk).trans (inductionHypothesis filled)
    | frame frame => exact List.prefix_refl _
    | eof =>
      rw [run]
      split
      next => exact List.prefix_refl _
      next => exact List.prefix_refl _
    | fail error => exact List.prefix_refl _
    | decode =>
      rw [run]
      rcases reader.decoder.decode target reader.buffer with
        ⟨(frame | _ | _) | error | site | _, decoder, buffer⟩
      · exact List.prefix_refl _
      · exact inductionHypothesis { reader with decoder, buffer, script }
      · exact inductionHypothesis { reader with decoder, buffer, script }
      · exact List.prefix_refl _
      · exact List.prefix_refl _
      · exact List.prefix_refl _

/-- The actions that are left are the last ones. -/
theorem run_script (target : Target) (script : List ReadAction) (reader : FramedRead) :
    (run target script reader).2.script <:+ script := by
  induction script generalizing reader with
  | nil => exact List.suffix_refl _
  | cons action script inductionHypothesis =>
    have later : ∀ reader : FramedRead, (run target script reader).2.script <:+ action :: script :=
      fun reader => (inductionHypothesis reader).trans (List.suffix_cons _ _)
    cases action with
    | fill chunk => exact later _
    | frame frame => exact List.suffix_cons _ _
    | eof =>
      rw [run]
      split
      next => exact List.suffix_cons _ _
      next => exact List.suffix_cons _ _
    | fail error => exact List.suffix_cons _ _
    | decode =>
      rw [run]
      rcases reader.decoder.decode target reader.buffer with
        ⟨(frame | _ | _) | error | site | _, decoder, buffer⟩
      · exact List.suffix_cons _ _
      · exact later _
      · exact later _
      · exact List.suffix_cons _ _
      · exact List.suffix_cons _ _
      · exact List.suffix_cons _ _

theorem run_on (width : PointerWidth) {script : List ReadAction} (fromWire : FromWire script) {reader : FramedRead}
    (goesOn : reader.errored = false) {frames : List WireFrame} (inStep : InStep reader frames) {total : List UInt8}
    (part : (run (.unlimited width) script reader).2.received <+: total)
    (fits : ∀ frame ∈ framesOf total, frame.length ≤ (Target.unlimited width).usizeMax) :
    CameOn reader frames (run (.unlimited width) script reader) := by
  induction script generalizing reader with
  | nil =>
    refine .waits goesOn (fun kept => ?_) ⟨rfl, rfl⟩
    have empty : reader.buffer = [] := (List.append_eq_nil_iff.mp kept).2
    rcases inStep with ⟨done, whole, fresh, received⟩ | ⟨done, whole, head, known, within, held, received⟩
    · exact .inl ⟨done, whole, fresh, by rw [← empty]; exact received⟩
    · exact .inr ⟨done, whole, head, known, within, held, by rw [← empty]; exact received⟩
  | cons action script inductionHypothesis =>
    cases action with
    | frame frame => exact absurd List.mem_cons_self (fromWire frame)
    | eof =>
      rw [run]
      split
      next => exact .eof
      next => exact .failed rfl
    | fail error => exact .failed rfl
    | fill chunk =>
      refine (inductionHypothesis fromWire.tail ?_ (inStep.filled chunk script) part).behind ⟨rfl, rfl⟩
      exact goesOn
    | decode =>
      -- what the decoder sees is a beginning of the stream, so that its lengths are declared there
      obtain ⟨more, rfl⟩ := (run_received (.unlimited width) (.decode :: script) reader).trans part
      have decoded := decode_within width inStep fits
      rw [run] at part ⊢
      generalize reader.decoder.decode (.unlimited width) reader.buffer = result at decoded part ⊢
      rcases decoded with decoded | ⟨error, decoder, buffer, rfl⟩
      case inr => exact .failed rfl
      cases decoded with
      | frame within arrival handed config => exact .frame within arrival goesOn handed config
      | refused arrival handed config => exact .failed rfl
      | unreadable => exact .failed rfl
      | @waits wants decoder buffer nothing stillInStep config =>
        let moved : FramedRead := { reader with decoder, buffer, script }
        have still : InStep moved frames := stillInStep
        cases wants with
        | Some frame => exact absurd rfl (nothing frame)
        | Insufficient => exact (@inductionHypothesis fromWire.tail moved goesOn still part).behind config
        | InsufficientAtLeast least => exact (@inductionHypothesis fromWire.tail moved goesOn still part).behind config

/-- What comes out of a reader are the frames on the wire, one after the other. -/
theorem next_inStep (width : PointerWidth) {reader : FramedRead} (fromWire : FromWire reader.script)
    (goesOn : reader.errored = false) {frames : List WireFrame} (inStep : InStep reader frames) {total : List UInt8}
    (part : (next (.unlimited width) reader).2.received <+: total)
    (fits : ∀ frame ∈ framesOf total, frame.length ≤ (Target.unlimited width).usizeMax) :
    CameOn reader frames (next (.unlimited width) reader) := by
  rw [next_eq_run _ goesOn] at part ⊢
  exact run_on width fromWire goesOn inStep part fits

theorem next_received (target : Target) (reader : FramedRead) :
    reader.received <+: (next target reader).2.received := by
  rw [next]
  split
  next => exact List.prefix_refl _
  next => exact run_received target reader.script reader

theorem next_script (target : Target) (reader : FramedRead) : (next target reader).2.script <:+ reader.script := by
  rw [next]
  split
  next => exact List.suffix_refl _
  next => exact run_script target reader.script reader

end FramedRead

theorem FromWire.next {target : Target} {reader after : FramedRead} {result : Result (Option Frame)}
    (fromWire : FromWire reader.script) (came : FramedRead.next target reader = (result, after)) :
    FromWire after.script := by
  have left := FramedRead.next_script target reader
  rw [came] at left
  exact fun frame found => fromWire frame (left.subset found)

end MonoioTungstenite
