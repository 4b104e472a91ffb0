import MonoioTungstenite.Frame
import MonoioTungstenite.Incomplete

/-! # Messages

`protocol/message.rs`: messages, and the collectors in which fragmented ones are put together.  A
`String` is its bytes; `saturating_add` on the lengths of two buffers that exist at the same time does
not saturate and is `+`.

`StringCollector.extend_cases` and `IncompleteMessage.extend_cases` say what adding a fragment does. -/

namespace MonoioTungstenite

open Lib.Utf8

structure StringCollector where
  data : List UInt8
  incomplete : Incomplete

namespace StringCollector

def new : StringCollector := ⟨[], Incomplete.new⟩

def len (collector : StringCollector) : Nat := collector.data.length + collector.incomplete.len

/-- The first half of `extend`: completes the character that is incomplete, if there is one.  The value
is the input left to look at, `none` where `extend` returns at once. -/
def completePart (tail : List UInt8) (collector : StringCollector) :
    Result (Option (List UInt8)) × StringCollector :=
  if collector.incomplete.isEmpty then (.ok (some tail), collector)
  else
    let completed := collector.incomplete.tryComplete tail
    Lib.andThen (completed.map id fun incomplete => { collector with incomplete }) fun completed collector =>
      match completed with
      | some (.ok text, rest) => (.ok (some rest), { collector with data := collector.data ++ text })
      | some (.error resultBytes, _) => (.err (.Utf8 (.lossy resultBytes)), collector)
      | none => (.ok none, collector)

/-- The second half of `extend`. -/
def pushInput (input : List UInt8) (collector : StringCollector) : Result Unit × StringCollector :=
  if input.isEmpty then (.ok (), collector)
  else
    match fromUtf8 input with
    | .ok _ => (.ok (), { collector with data := collector.data ++ input })
    | .error error =>
      if input.length < error.validUpTo then (.panic .sliceIndex, collector)
      else
        let valid := input.take error.validUpTo
        let afterValid := input.drop error.validUpTo
        -- `from_utf8_unchecked`
        if Valid valid then
          let collector := { collector with data := collector.data ++ valid }
          match error.errorLen with
          | some invalidSequenceLength =>
            if afterValid.length < invalidSequenceLength then (.panic .sliceIndex, collector)
            else (.err (.Utf8 (.lossy (afterValid.take invalidSequenceLength))), collector)
          | none =>
            Lib.andThen (Incomplete.fromBytes afterValid, collector) fun incomplete collector =>
              (.ok (), { collector with incomplete })
        else (.panic .uncheckedStr, collector)

def extend (tail : List UInt8) (collector : StringCollector) : Result Unit × StringCollector :=
  Lib.andThen (completePart tail collector) fun input collector =>
    match input with
    | some input => pushInput input collector
    | none => (.ok (), collector)

def intoString (collector : StringCollector) : Except Error (List UInt8) :=
  if ¬ collector.incomplete.isEmpty then
    .error (.Utf8 (.incompleteString collector.incomplete.buffer collector.incomplete.bufferLen))
  else .ok collector.data

end StringCollector

/-- The various forms of a WebSocket message. -/
inductive Message where
  | Text (data : Utf8Bytes)
  | Binary (data : List UInt8)
  | Ping (data : List UInt8)
  | Pong (data : List UInt8)
  | Close (code : Option CloseFrame)
  | Frame (frame : Frame)
  deriving DecidableEq, Repr

/-- The type of incomplete message. -/
inductive IncompleteMessageType where
  | Text
  | Binary
  deriving DecidableEq, Repr

inductive IncompleteMessageCollector where
  | Text (collector : StringCollector)
  | Binary (bytes : List UInt8)

/-- A struct representing the incomplete message. -/
structure IncompleteMessage where
  collector : IncompleteMessageCollector

namespace IncompleteMessage

def new : IncompleteMessageType → IncompleteMessage
  | .Binary => ⟨.Binary []⟩
  | .Text => ⟨.Text StringCollector.new⟩

/-- The current filled size of the buffer. -/
def len (message : IncompleteMessage) : Nat :=
  match message.collector with
  | .Text collector => collector.len
  | .Binary bytes => bytes.length

/-- Adds more data to an existing message. -/
def extend (target : Target) (tail : List UInt8) (sizeLimit : Option Nat) (message : IncompleteMessage) :
    Result Unit × IncompleteMessage :=
  let maxSize := sizeLimit.getD target.usizeMax
  let mySize := message.len
  let portionSize := tail.length
  if mySize > maxSize ∨ portionSize > maxSize - mySize then
    (.err (.Capacity (.MessageTooLong (mySize + portionSize) maxSize)), message)
  else
    match message.collector with
    | .Binary bytes => (.ok (), ⟨.Binary (bytes ++ tail)⟩)
    | .Text collector => (collector.extend tail).map id fun collector => ⟨.Text collector⟩

/-- Converts an incomplete message into a complete one. -/
def complete (message : IncompleteMessage) : Except Error Message :=
  match message.collector with
  | .Binary bytes => .ok (.Binary bytes)
  | .Text collector =>
    match collector.intoString with
    | .ok text => .ok (.Text ⟨text⟩)
    | .error error => .error error

end IncompleteMessage

/-! ## Collecting a text -/

namespace StringCollector

/-- The bytes collected so far. -/
def bytes (collector : StringCollector) : List UInt8 := collector.data ++ collector.incomplete.contents

/-- The data is UTF-8, and what is kept behind it is nothing or the beginning of one character. -/
def WellFormed (collector : StringCollector) : Prop := Valid collector.data ∧ collector.incomplete.WellFormed

theorem wellFormed_new : new.WellFormed := ⟨valid_nil, Incomplete.wellFormed_new⟩

theorem WellFormed.length_bytes {collector : StringCollector} (wellFormed : collector.WellFormed) :
    collector.bytes.length = collector.len := by
  rw [bytes, List.length_append, wellFormed.2.length_contents, len]

/-- What `extend` owes its caller: either the bytes go on as text and are all kept, or they do not and
the call fails. -/
structure Extended (collector : StringCollector) (tail : List UInt8)
    (result : Result Unit × StringCollector) : Prop where
  wellFormed : result.2.WellFormed
  outcome : (ValidPrefix (collector.bytes ++ tail) ∧ result.1 = .ok () ∧
      result.2.bytes = collector.bytes ++ tail) ∨
    (¬ ValidPrefix (collector.bytes ++ tail) ∧ (∃ text, result.1 = .err (.Utf8 text)) ∧
      result.2.bytes.length ≤ (collector.bytes ++ tail).length)

/-- The second half of `extend` runs with nothing incomplete. -/
theorem pushInput_extended (collector : StringCollector) (valid : Valid collector.data)
    (empty : collector.incomplete.bufferLen = 0) (input : List UInt8) :
    Extended collector input (pushInput input collector) := by
  have nothing := Incomplete.contents_empty empty
  have wellFormed := Incomplete.wellFormed_of_empty empty
  have held : collector.bytes = collector.data := by rw [bytes, nothing, List.append_nil]
  unfold pushInput
  split
  next none =>
    obtain rfl : input = [] := by simpa using none
    exact ⟨⟨valid, wellFormed⟩, .inl ⟨by rw [held, List.append_nil]; exact valid.validPrefix, rfl, by simp⟩⟩
  next some =>
    rcases fromUtf8_cases input with
      ⟨accepted, inputValid⟩ | ⟨start, rest, rfl, startValid, nonempty, ⟨undecided, failed⟩ | ⟨length, found, failed⟩⟩
    · rw [accepted]
      refine ⟨⟨valid.append inputValid, wellFormed⟩, .inl ⟨?_, rfl, ?_⟩⟩
      · rw [held]
        exact (valid.append inputValid).validPrefix
      · simp [bytes, nothing]
    · -- the input ends inside a character, which is kept
      have part := (scan_incomplete_iff nonempty).mp undecided
      have short := part.length_le
      obtain ⟨incomplete, made, contents, fits⟩ := Incomplete.fromBytes_of_le (show rest.length ≤ 4 by omega)
      have inRange : ¬ (start ++ rest).length < start.length := by simp
      simp only [failed, inRange, if_false, List.take_left, List.drop_left, startValid, if_true, made,
        Lib.andThen_ok]
      refine ⟨⟨valid.append startValid, fits, .inr (contents ▸ part)⟩, .inl ⟨?_, rfl, ?_⟩⟩
      · rw [held, ← List.append_assoc]
        exact (validPrefix_append_iff (valid.append startValid)).mpr part.validPrefix
      · simp [bytes, nothing, contents]
    -- an ill-formed sequence: what is valid before it is kept all the same
    · have bounds := scan_invalid_bounds found
      have inRange : ¬ (start ++ rest).length < start.length := by simp
      have inRest : ¬ rest.length < length := by omega
      simp only [failed, inRange, if_false, List.take_left, List.drop_left, startValid, if_true, inRest]
      refine ⟨⟨valid.append startValid, wellFormed⟩, .inr ⟨?_, ⟨_, rfl⟩, ?_⟩⟩
      · rw [held, ← List.append_assoc, validPrefix_append_iff (valid.append startValid)]
        exact not_validPrefix_of_scan_invalid found
      · simp [bytes, nothing]

/-- `extend` on any fragment. -/
theorem extend_extended {collector : StringCollector} (wellFormed : collector.WellFormed) (tail : List UInt8) :
    Extended collector tail (extend tail collector) := by
  obtain ⟨valid, fits, contents⟩ := wellFormed
  unfold extend completePart
  by_cases empty : collector.incomplete.contents = []
  · have isEmpty := (Incomplete.isEmpty_iff fits).mpr empty
    rw [if_pos isEmpty, Lib.andThen_ok]
    exact pushInput_extended collector valid (by simpa [Incomplete.isEmpty] using isEmpty) tail
  · have notEmpty := mt (Incomplete.isEmpty_iff fits).mp empty
    have part := contents.resolve_left empty
    rw [if_neg notEmpty]
    obtain ⟨after, ⟨start, rest, rfl, completed, isEmpty, run⟩ | ⟨invalid, isEmpty, error, rest, run⟩ |
      ⟨stillPart, afterFits, afterContents, run⟩⟩ := Incomplete.tryComplete_cases fits part tail
    · -- the character is complete: its bytes join the data, and the rest of the input follows
      have joined : Valid (collector.data ++ (collector.incomplete.contents ++ start)) := valid.append completed
      have extended := pushInput_extended
        ⟨collector.data ++ (collector.incomplete.contents ++ start), after⟩ joined isEmpty rest
      have same : (⟨collector.data ++ (collector.incomplete.contents ++ start), after⟩ : StringCollector).bytes ++ rest =
          collector.bytes ++ (start ++ rest) := by
        simp [bytes, Incomplete.contents_empty isEmpty]
      simp only [run, Prod.map_apply, id, Lib.andThen_ok]
      exact ⟨extended.wellFormed, same ▸ extended.outcome⟩
    -- no character begins like this
    · simp only [run, Prod.map_apply, id, Lib.andThen_ok, Lib.andThen_err]
      refine ⟨⟨valid, Incomplete.wellFormed_of_empty isEmpty⟩, .inr ⟨?_, ⟨_, rfl⟩, ?_⟩⟩
      · rw [bytes, List.append_assoc, validPrefix_append_iff valid]
        exact invalid
      · simp [bytes, Incomplete.contents_empty isEmpty]
    -- still unfinished, with all of the input behind it
    · simp only [run, Prod.map_apply, id, Lib.andThen_ok]
      refine ⟨⟨valid, afterFits, .inr (afterContents ▸ stillPart)⟩, .inl ⟨?_, rfl, ?_⟩⟩
      · rw [bytes, List.append_assoc, validPrefix_append_iff valid]
        exact stillPart.validPrefix
      · simp [bytes, afterContents]

theorem intoString_cases {collector : StringCollector} (wellFormed : collector.WellFormed) :
    (Valid collector.bytes ∧ collector.intoString = .ok collector.bytes) ∨
    (¬ Valid collector.bytes ∧ ∃ text, collector.intoString = .error (.Utf8 text)) := by
  obtain ⟨valid, fits, contents⟩ := wellFormed
  by_cases empty : collector.incomplete.contents = []
  · have isEmpty := (Incomplete.isEmpty_iff fits).mpr empty
    have all : collector.bytes = collector.data := by rw [bytes, empty, List.append_nil]
    exact .inl ⟨all ▸ valid, by rw [intoString, if_neg (not_not_intro isEmpty), all]⟩
  · have notEmpty := mt (Incomplete.isEmpty_iff fits).mp empty
    refine .inr ⟨?_, _, if_pos notEmpty⟩
    rw [bytes, valid_append_iff valid]
    exact (contents.resolve_left empty).not_valid

/-! ### Chunk by chunk, against the whole -/

/-- Extends with the chunks in order, until a call fails. -/
def extendAll : List (List UInt8) → StringCollector → Result Unit × StringCollector
  | [], collector => (.ok (), collector)
  | chunk :: chunks, collector =>
    Lib.andThen (extend chunk collector) fun _ collector => extendAll chunks collector

/-- The chunks reach the collector as their concatenation would. -/
theorem extendAll_extended {collector : StringCollector} (wellFormed : collector.WellFormed)
    (started : ValidPrefix collector.bytes) (chunks : List (List UInt8)) :
    Extended collector chunks.flatten (extendAll chunks collector) := by
  induction chunks generalizing collector with
  | nil => exact ⟨wellFormed, .inl ⟨by simpa using started, rfl, by simp [extendAll]⟩⟩
  | cons chunk chunks ih =>
    have first := extend_extended wellFormed chunk
    have whole : collector.bytes ++ (chunk :: chunks).flatten = collector.bytes ++ chunk ++ chunks.flatten := by
      simp
    rw [extendAll]
    generalize extend chunk collector = call at first ⊢
    obtain ⟨returned, extended⟩ := call
    cases first.outcome with
    | inl kept =>
      -- the bytes so far still begin a text: the remaining chunks go on from them
      obtain ⟨valid, rfl, bytes⟩ := kept
      dsimp only at bytes
      have rest := ih first.wellFormed (bytes ▸ valid)
      have outcome := rest.outcome
      rw [bytes, ← whole] at outcome
      exact ⟨rest.wellFormed, outcome⟩
    | inr refused =>
      -- no continuation repairs them
      obtain ⟨invalid, ⟨text, rfl⟩, bound⟩ := refused
      refine ⟨first.wellFormed, .inr ⟨?_, ⟨text, rfl⟩, ?_⟩⟩
      · rw [whole]
        exact fun valid => invalid valid.of_append
      · rw [whole, List.length_append]
        apply Nat.le_trans bound
        exact Nat.le_add_right _ _

/-- Collecting the chunks one by one is validating their concatenation, as early as possible. -/
structure CollectsWhole (chunks : List (List UInt8)) : Prop where
  returns : (extendAll chunks new).1 = .ok () ↔ ValidPrefix chunks.flatten
  fails : ∀ before chunk after, chunks = before ++ chunk :: after →
    (((extendAll before new).1 = .ok () ∧ ∃ text, (extend chunk (extendAll before new).2).1 = .err (.Utf8 text)) ↔
      (ValidPrefix before.flatten ∧ ¬ ValidPrefix (before.flatten ++ chunk)))
  len : (extendAll chunks new).1 = .ok () → (extendAll chunks new).2.len = chunks.flatten.length
  intoString : (extendAll chunks new).1 = .ok () → ∀ text,
    (extendAll chunks new).2.intoString = .ok text ↔ Valid chunks.flatten ∧ text = chunks.flatten

theorem extendAll_new (chunks : List (List UInt8)) :
    Extended new chunks.flatten (extendAll chunks new) :=
  extendAll_extended wellFormed_new valid_nil.validPrefix chunks

theorem extendAll_ok_iff (chunks : List (List UInt8)) :
    (extendAll chunks new).1 = .ok () ↔ ValidPrefix chunks.flatten := by
  cases (extendAll_new chunks).outcome with
  | inl kept => exact iff_of_true kept.2.1 kept.1
  | inr refused =>
    obtain ⟨invalid, ⟨text, failed⟩, -⟩ := refused
    apply iff_of_false _ invalid
    rw [failed]
    simp

/-- While no call fails, the collector holds all the bytes. -/
theorem extendAll_bytes {chunks : List (List UInt8)} (returned : (extendAll chunks new).1 = .ok ()) :
    (extendAll chunks new).2.bytes = chunks.flatten := by
  cases (extendAll_new chunks).outcome with
  | inl kept => exact kept.2.2
  | inr refused =>
    obtain ⟨-, ⟨text, failed⟩, -⟩ := refused
    simp [failed] at returned

theorem extend_fails_iff {collector : StringCollector} (wellFormed : collector.WellFormed) (chunk : List UInt8) :
    (∃ text, (extend chunk collector).1 = .err (.Utf8 text)) ↔ ¬ ValidPrefix (collector.bytes ++ chunk) := by
  cases (extend_extended wellFormed chunk).outcome with
  | inl kept => simp [kept.1, kept.2.1]
  | inr refused => exact iff_of_true refused.2.1 refused.1

theorem collects_whole (chunks : List (List UInt8)) : CollectsWhole chunks := by
  constructor
  case returns => exact extendAll_ok_iff chunks
  case fails =>
    intro before chunk after _
    rw [extendAll_ok_iff]
    apply and_congr_right
    intro started
    rw [extend_fails_iff (extendAll_new before).wellFormed, extendAll_bytes ((extendAll_ok_iff before).mpr started)]
  case len =>
    intro returned
    rw [← (extendAll_new chunks).wellFormed.length_bytes, extendAll_bytes returned]
  case intoString =>
    intro returned text
    have bytes := extendAll_bytes returned
    cases intoString_cases (extendAll_new chunks).wellFormed with
    | inl whole =>
      rw [whole.2, bytes]
      simp [bytes ▸ whole.1, eq_comm]
    | inr cut =>
      obtain ⟨invalid, error, failed⟩ := cut
      rw [failed]
      simp [bytes ▸ invalid]

end StringCollector

/-! ## Collecting a message -/

/-- The bytes may be the beginning of a message of this type. -/
def IncompleteMessageType.MayStart : IncompleteMessageType → List UInt8 → Prop
  | .Text, bytes => ValidPrefix bytes
  | .Binary, _ => True

/-- The bytes may be a whole message of this type. -/
def IncompleteMessageType.MayBe : IncompleteMessageType → List UInt8 → Prop
  | .Text, bytes => Valid bytes
  | .Binary, _ => True

/-- The message of this type with these bytes. -/
def IncompleteMessageType.message : IncompleteMessageType → List UInt8 → Message
  | .Text, bytes => .Text ⟨bytes⟩
  | .Binary, bytes => .Binary bytes

namespace IncompleteMessage

def kind (message : IncompleteMessage) : IncompleteMessageType :=
  match message.collector with
  | .Text _ => .Text
  | .Binary _ => .Binary

/-- The bytes collected so far. -/
def payload (message : IncompleteMessage) : List UInt8 :=
  match message.collector with
  | .Text collector => collector.bytes
  | .Binary bytes => bytes

def WellFormed (message : IncompleteMessage) : Prop :=
  match message.collector with
  | .Text collector => collector.WellFormed
  | .Binary _ => True

@[simp] theorem kind_new (kind : IncompleteMessageType) : (new kind).kind = kind := by cases kind <;> rfl

@[simp] theorem payload_new (kind : IncompleteMessageType) : (new kind).payload = [] := by cases kind <;> rfl

theorem wellFormed_new (kind : IncompleteMessageType) : (new kind).WellFormed := by
  cases kind with
  | Text => exact StringCollector.wellFormed_new
  | Binary => trivial

theorem WellFormed.length_payload {message : IncompleteMessage} (wellFormed : message.WellFormed) :
    message.payload.length = message.len := by
  obtain ⟨collector | bytes⟩ := message
  · exact StringCollector.WellFormed.length_bytes wellFormed
  · rfl

/-- The bound that `extend` enforces. -/
def maxSize (target : Target) (sizeLimit : Option Nat) : Nat := sizeLimit.getD target.usizeMax

/-- What `extend` owes its caller: the fragment is refused for its size and nothing changes, or it is
all kept, or it is not text and the call fails. -/
structure Extended (target : Target) (sizeLimit : Option Nat) (message : IncompleteMessage) (tail : List UInt8)
    (result : Result Unit × IncompleteMessage) : Prop where
  wellFormed : result.2.WellFormed
  kind_eq : result.2.kind = message.kind
  outcome : (maxSize target sizeLimit < (message.payload ++ tail).length ∧ result.2 = message ∧
      result.1 = .err (.Capacity (.MessageTooLong (message.payload ++ tail).length (maxSize target sizeLimit)))) ∨
    ((message.payload ++ tail).length ≤ maxSize target sizeLimit ∧ message.kind.MayStart (message.payload ++ tail) ∧
      result.1 = .ok () ∧ result.2.payload = message.payload ++ tail) ∨
    ((message.payload ++ tail).length ≤ maxSize target sizeLimit ∧
      ¬ message.kind.MayStart (message.payload ++ tail) ∧ (∃ text, result.1 = .err (.Utf8 text)) ∧
      result.2.payload.length ≤ (message.payload ++ tail).length)

theorem extend_extended (target : Target) {message : IncompleteMessage} (wellFormed : message.WellFormed)
    (tail : List UInt8) (sizeLimit : Option Nat) :
    Extended target sizeLimit message tail (extend target tail sizeLimit message) := by
  have size := wellFormed.length_payload
  have total : (message.payload ++ tail).length = message.len + tail.length := by
    rw [List.length_append, size]
  unfold extend
  by_cases tooLong : maxSize target sizeLimit < (message.payload ++ tail).length
  · rw [if_pos (by show maxSize target sizeLimit < _ ∨ maxSize target sizeLimit - _ < _; omega)]
    exact ⟨wellFormed, rfl, .inl ⟨tooLong, rfl, by rw [total]; rfl⟩⟩
  · rw [if_neg (by show ¬ (maxSize target sizeLimit < _ ∨ maxSize target sizeLimit - _ < _); omega)]
    have fits := Nat.not_lt.mp tooLong
    obtain ⟨collector | bytes⟩ := message
    · have extended := StringCollector.extend_extended wellFormed tail
      refine ⟨extended.wellFormed, rfl, .inr ?_⟩
      rcases extended.outcome with ⟨valid, returned, all⟩ | ⟨invalid, failed, bound⟩
      · exact .inl ⟨fits, valid, returned, all⟩
      · exact .inr ⟨fits, invalid, failed, bound⟩
    · exact ⟨trivial, rfl, .inr (.inl ⟨fits, trivial, rfl, rfl⟩)⟩

theorem complete_cases {message : IncompleteMessage} (wellFormed : message.WellFormed) :
    (message.kind.MayBe message.payload ∧ message.complete = .ok (message.kind.message message.payload)) ∨
    (¬ message.kind.MayBe message.payload ∧ ∃ text, message.complete = .error (.Utf8 text)) := by
  obtain ⟨collector | bytes⟩ := message
  · rcases StringCollector.intoString_cases wellFormed with ⟨valid, returned⟩ | ⟨invalid, text, failed⟩
    · exact .inl ⟨valid, by simp only [complete, returned]; rfl⟩
    · exact .inr ⟨invalid, text, by simp only [complete, failed]⟩
  · exact .inl ⟨trivial, rfl⟩

end IncompleteMessage

end MonoioTungstenite
