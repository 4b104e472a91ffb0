import MonoioTungstenite.Error
import MonoioTungstenite.Lib.Utf8

/-! # Characters cut between two chunks

`protocol/frame/utf8/decode.rs`: the bytes of a character whose end has not arrived yet.

`tryComplete_cases` says what `tryComplete` does with an unfinished character: it completes it, finds
that nothing can, or keeps it unfinished.  None of its slices, subtractions and unchecked conversions
goes wrong. -/

namespace MonoioTungstenite

open Lib.Utf8

/-- The beginning of a character, in a buffer of four bytes. -/
structure Incomplete where
  buffer : List UInt8
  bufferLen : Nat
  size : buffer.length = 4

namespace Incomplete

def new : Incomplete := ⟨[0, 0, 0, 0], 0, rfl⟩

def len (incomplete : Incomplete) : Nat := incomplete.bufferLen

def isEmpty (incomplete : Incomplete) : Bool := incomplete.bufferLen == 0

/-- Creates a new `Incomplete` from the given bytes. -/
def fromBytes (bytes : List UInt8) : Result Incomplete :=
  if fits : bytes.length ≤ 4 then
    .ok ⟨bytes ++ List.replicate (4 - bytes.length) 0, bytes.length, by simp; omega⟩
  else .panic .sliceIndex

/-- `buffer[start..].copy_from_slice(bytes)`, for bytes that fit. -/
def splice (incomplete : Incomplete) (start : Nat) (bytes : List UInt8)
    (fits : start + bytes.length ≤ 4) : Incomplete where
  buffer := incomplete.buffer.take start ++ bytes ++ incomplete.buffer.drop (start + bytes.length)
  bufferLen := incomplete.bufferLen
  size := by
    have size := incomplete.size
    simp only [List.length_append, List.length_take, List.length_drop]
    omega

/-- `checked_sub(..).unwrap()` -/
def checkedSub (left right : Nat) : Result Nat :=
  if right ≤ left then .ok (left - right) else .panic .checkedSubUnwrap

/-- What validating the `splicedLen` bytes in the buffer means for the character. -/
def judge (initialBufferLen copiedFromInput splicedLen : Nat) (checked : Except Utf8Error Unit)
    (incomplete : Incomplete) : Result (Nat × Option (Except Unit Unit)) × Incomplete :=
  match checked with
  | .ok _ => (.ok (copiedFromInput, some (.ok ())), { incomplete with bufferLen := splicedLen })
  | .error error =>
    if 0 < error.validUpTo then
      Lib.andThen (checkedSub error.validUpTo initialBufferLen, incomplete) fun consumed incomplete =>
        (.ok (consumed, some (.ok ())), { incomplete with bufferLen := error.validUpTo })
    else
      match error.errorLen with
      | some invalidSequenceLength =>
        Lib.andThen (checkedSub invalidSequenceLength initialBufferLen, incomplete) fun consumed incomplete =>
          (.ok (consumed, some (.error ())), { incomplete with bufferLen := invalidSequenceLength })
      | none => (.ok (copiedFromInput, none), { incomplete with bufferLen := splicedLen })

/-- The number of bytes consumed from the input, and `none` for not enough input, an error for error
bytes in the buffer, `ok` for a UTF-8 string in the buffer. -/
def tryCompleteOffsets (input : List UInt8) (incomplete : Incomplete) :
    Result (Nat × Option (Except Unit Unit)) × Incomplete :=
  let initialBufferLen := incomplete.bufferLen
  if inRange : initialBufferLen ≤ 4 then
    let copiedFromInput := min input.length (4 - initialBufferLen)
    let incomplete := incomplete.splice initialBufferLen (input.take copiedFromInput) (by simp; omega)
    let spliced := incomplete.buffer.take (initialBufferLen + copiedFromInput)
    judge initialBufferLen copiedFromInput spliced.length (fromUtf8 spliced) incomplete
  else (.panic .sliceIndex, incomplete)

def takeBuffer (incomplete : Incomplete) : Result (List UInt8) × Incomplete :=
  let len := incomplete.bufferLen
  let incomplete := { incomplete with bufferLen := 0 }
  if len ≤ 4 then (.ok (incomplete.buffer.take len), incomplete) else (.panic .sliceIndex, incomplete)

/-- `none` while the character is still incomplete, otherwise the completed bytes or the error bytes,
and the remaining input. -/
def tryComplete (input : List UInt8) (incomplete : Incomplete) :
    Result (Option (Except (List UInt8) (List UInt8) × List UInt8)) × Incomplete :=
  Lib.andThen (tryCompleteOffsets input incomplete) fun (consumed, optResult) incomplete =>
    match optResult with
    | none => (.ok none, incomplete)
    | some result =>
      if input.length < consumed then (.panic .sliceIndex, incomplete)
      else
        let remainingInput := input.drop consumed
        Lib.andThen (takeBuffer incomplete) fun resultBytes incomplete =>
          match result with
          | .ok () =>
            -- `from_utf8_unchecked`
            if Valid resultBytes then (.ok (some (.ok resultBytes, remainingInput)), incomplete)
            else (.panic .uncheckedStr, incomplete)
          | .error () => (.ok (some (.error resultBytes, remainingInput)), incomplete)

/-! ## What it holds -/

/-- The bytes in use. -/
def contents (incomplete : Incomplete) : List UInt8 := incomplete.buffer.take incomplete.bufferLen

/-- Nothing, or the beginning of one character. -/
def WellFormed (incomplete : Incomplete) : Prop :=
  incomplete.bufferLen ≤ 4 ∧ (incomplete.contents = [] ∨ PartialChar incomplete.contents)

theorem length_contents {incomplete : Incomplete} (fits : incomplete.bufferLen ≤ 4) :
    incomplete.contents.length = incomplete.bufferLen := by
  rw [contents, List.length_take, incomplete.size]
  omega

theorem WellFormed.length_contents {incomplete : Incomplete} (wellFormed : incomplete.WellFormed) :
    incomplete.contents.length = incomplete.len := Incomplete.length_contents wellFormed.1

theorem isEmpty_iff {incomplete : Incomplete} (fits : incomplete.bufferLen ≤ 4) :
    incomplete.isEmpty = true ↔ incomplete.contents = [] := by
  rw [← List.length_eq_zero_iff, length_contents fits, isEmpty, beq_iff_eq]

@[simp] theorem contents_new : new.contents = [] := rfl

theorem wellFormed_new : new.WellFormed := ⟨by decide, .inl rfl⟩

theorem contents_empty {incomplete : Incomplete} (empty : incomplete.bufferLen = 0) :
    incomplete.contents = [] := by
  rw [contents, empty, List.take_zero]

theorem wellFormed_of_empty {incomplete : Incomplete} (empty : incomplete.bufferLen = 0) :
    incomplete.WellFormed := ⟨by omega, .inl (contents_empty empty)⟩

theorem fromBytes_of_le {bytes : List UInt8} (fits : bytes.length ≤ 4) :
    ∃ incomplete, fromBytes bytes = .ok incomplete ∧ incomplete.contents = bytes ∧ incomplete.bufferLen ≤ 4 := by
  refine ⟨_, dif_pos fits, ?_, fits⟩
  simp [contents]

theorem checkedSub_of_le {left right : Nat} (le : right ≤ left) : checkedSub left right = .ok (left - right) :=
  if_pos le

/-! ## Completing a character -/

theorem splice_take {incomplete : Incomplete} {start count : Nat} {bytes : List UInt8}
    (fits : start + bytes.length ≤ 4) (within : count ≤ start + bytes.length) :
    (incomplete.splice start bytes fits).buffer.take count = (incomplete.buffer.take start ++ bytes).take count := by
  have size := incomplete.size
  rw [splice, List.take_append_of_le_length]
  rw [List.length_append, List.length_take]
  omega

/-- How many of the input bytes fit behind the ones held. -/
def copied (incomplete : Incomplete) (input : List UInt8) : Nat := min input.length (4 - incomplete.bufferLen)

/-- The bytes `tryCompleteOffsets` looks at. -/
def spliced (incomplete : Incomplete) (input : List UInt8) : List UInt8 :=
  incomplete.contents ++ input.take (incomplete.copied input)

theorem length_spliced {incomplete : Incomplete} (fits : incomplete.bufferLen ≤ 4) (input : List UInt8) :
    (incomplete.spliced input).length = incomplete.bufferLen + incomplete.copied input := by
  rw [spliced, List.length_append, length_contents fits, List.length_take, copied]
  omega

/-- A part of these bytes is what was held and some of the input. -/
theorem take_spliced {incomplete : Incomplete} (fits : incomplete.bufferLen ≤ 4) {input : List UInt8}
    {consumed : Nat} (within : consumed ≤ incomplete.copied input) :
    (incomplete.spliced input).take (incomplete.bufferLen + consumed) =
      incomplete.contents ++ input.take consumed := by
  rw [spliced, ← length_contents fits, List.take_length_add_append, List.take_take, Nat.min_eq_left within]

theorem tryCompleteOffsets_eq {incomplete : Incomplete} (fits : incomplete.bufferLen ≤ 4) (input : List UInt8) :
    ∃ after : Incomplete,
      (∀ count, count ≤ (incomplete.spliced input).length →
        after.buffer.take count = (incomplete.spliced input).take count) ∧
      tryCompleteOffsets input incomplete =
        judge incomplete.bufferLen (incomplete.copied input) (incomplete.spliced input).length
          (fromUtf8 (incomplete.spliced input)) after := by
  have total := length_spliced fits input
  have copiedLength : (input.take (incomplete.copied input)).length = incomplete.copied input := by
    rw [List.length_take, copied]
    omega
  have room : incomplete.bufferLen + (input.take (incomplete.copied input)).length ≤ 4 := by
    rw [copiedLength, copied]
    omega
  have taken : ∀ count, count ≤ (incomplete.spliced input).length →
      (incomplete.splice incomplete.bufferLen (input.take (incomplete.copied input)) room).buffer.take count =
        (incomplete.spliced input).take count :=
    fun count within => splice_take room (by omega)
  refine ⟨_, taken, ?_⟩
  have whole := taken _ (Nat.le_refl _)
  rw [List.take_length, total] at whole
  rw [tryCompleteOffsets, dif_pos fits]
  exact congrArg (fun bytes => judge _ _ bytes.length (fromUtf8 bytes) _) whole

/-- The character is completed, cannot be completed, or is still unfinished; in each case this many bytes
of the input have moved into the buffer. -/
theorem tryCompleteOffsets_cases {incomplete : Incomplete} (fits : incomplete.bufferLen ≤ 4)
    (part : PartialChar incomplete.contents) (input : List UInt8) :
    ∃ consumed after, consumed ≤ input.length ∧ after.bufferLen ≤ 4 ∧
      after.contents = incomplete.contents ++ input.take consumed ∧
      ((Valid after.contents ∧
          tryCompleteOffsets input incomplete = (.ok (consumed, some (.ok ())), after)) ∨
        (¬ ValidPrefix (incomplete.contents ++ input) ∧
          tryCompleteOffsets input incomplete = (.ok (consumed, some (.error ())), after)) ∨
        (PartialChar after.contents ∧ consumed = input.length ∧
          tryCompleteOffsets input incomplete = (.ok (consumed, none), after))) := by
  obtain ⟨after, taken, run⟩ := tryCompleteOffsets_eq fits input
  have held := length_contents fits
  have total := length_spliced fits input
  have copiedEq : incomplete.copied input = min input.length (4 - incomplete.bufferLen) := rfl
  have inside : incomplete.contents ++ input =
      incomplete.spliced input ++ input.drop (incomplete.copied input) := by
    rw [spliced, List.append_assoc, List.take_append_drop]
  -- how many bytes are consumed says what the buffer then holds
  suffices decided : ∃ consumed, consumed ≤ incomplete.copied input ∧
      ((Valid (incomplete.contents ++ input.take consumed) ∧ tryCompleteOffsets input incomplete =
          (.ok (consumed, some (.ok ())), { after with bufferLen := incomplete.bufferLen + consumed })) ∨
        (¬ ValidPrefix (incomplete.contents ++ input) ∧ tryCompleteOffsets input incomplete =
          (.ok (consumed, some (.error ())), { after with bufferLen := incomplete.bufferLen + consumed })) ∨
        (PartialChar (incomplete.contents ++ input.take consumed) ∧ consumed = input.length ∧
          tryCompleteOffsets input incomplete =
            (.ok (consumed, none), { after with bufferLen := incomplete.bufferLen + consumed }))) by
    obtain ⟨consumed, within, outcome⟩ := decided
    have contents : after.buffer.take (incomplete.bufferLen + consumed) =
        incomplete.contents ++ input.take consumed := by
      rw [taken _ (by omega), take_spliced fits within]
    refine ⟨consumed, { after with bufferLen := incomplete.bufferLen + consumed }, by omega, by dsimp only; omega,
      contents, ?_⟩
    rwa [Incomplete.contents, contents]
  rcases fromUtf8_cases (incomplete.spliced input) with
    ⟨accepted, valid⟩ | ⟨valid, rest, equal, isValid, nonempty, stop⟩
  · refine ⟨_, Nat.le_refl _, .inl ⟨valid, ?_⟩⟩
    rw [run, accepted, judge, total]
  have size := congrArg List.length equal
  rw [total, List.length_append] at size
  by_cases empty : valid = []
  · subst empty
    rw [List.nil_append] at equal
    subst equal
    rcases stop with ⟨undecided, failed⟩ | ⟨length, found, failed⟩
    · -- all of it is the beginning of one character, so there was no more input
      have few := scan_incomplete_length undecided
      have all : incomplete.copied input = input.length := by omega
      refine ⟨_, Nat.le_refl _, .inr (.inr ⟨(scan_incomplete_iff nonempty).mp undecided, all, ?_⟩)⟩
      rw [run, failed, judge, total]
      rfl
    · have above := incomplete_le_invalid part.scan found
      have bounds := scan_invalid_bounds found
      have back : incomplete.bufferLen + (length - incomplete.bufferLen) = length := by omega
      refine ⟨length - incomplete.bufferLen, by omega, .inr (.inl ⟨?_, ?_⟩)⟩
      · rw [inside]
        exact fun valid => not_validPrefix_of_scan_invalid found valid.of_append
      · rw [run, failed, judge, back]
        simp [checkedSub_of_le (show incomplete.bufferLen ≤ length by omega)]
  · have above := part.length_lt_of_append isValid empty equal
    have back : incomplete.bufferLen + (valid.length - incomplete.bufferLen) = valid.length := by omega
    have positive : 0 < valid.length := List.length_pos_iff.mpr empty
    refine ⟨valid.length - incomplete.bufferLen, by omega, .inl ⟨?_, ?_⟩⟩
    · rw [← take_spliced fits (by omega), back, equal, List.take_left]
      exact isValid
    · rcases stop with ⟨_, failed⟩ | ⟨_, _, failed⟩ <;>
      · rw [run, failed, judge, back]
        simp [checkedSub_of_le (show incomplete.bufferLen ≤ valid.length by omega), positive]

/-- `tryComplete` on an unfinished character, for every input: no slice, subtraction or unchecked
conversion goes wrong. -/
theorem tryComplete_cases {incomplete : Incomplete} (fits : incomplete.bufferLen ≤ 4)
    (part : PartialChar incomplete.contents) (input : List UInt8) :
    ∃ after : Incomplete,
      (∃ start rest, input = start ++ rest ∧ Valid (incomplete.contents ++ start) ∧ after.bufferLen = 0 ∧
        tryComplete input incomplete = (.ok (some (.ok (incomplete.contents ++ start), rest)), after)) ∨
      (¬ ValidPrefix (incomplete.contents ++ input) ∧ after.bufferLen = 0 ∧
        ∃ bytes rest, tryComplete input incomplete = (.ok (some (.error bytes, rest)), after)) ∨
      (PartialChar (incomplete.contents ++ input) ∧ after.bufferLen ≤ 4 ∧
        after.contents = incomplete.contents ++ input ∧ tryComplete input incomplete = (.ok none, after)) := by
  obtain ⟨consumed, after, within, afterFits, contents, outcome⟩ := tryCompleteOffsets_cases fits part input
  have inRange : ¬ input.length < consumed := by omega
  rcases outcome with ⟨valid, run⟩ | ⟨invalid, run⟩ | ⟨stillPart, all, run⟩
  · refine ⟨{ after with bufferLen := 0 }, .inl ⟨input.take consumed, input.drop consumed,
      (List.take_append_drop _ _).symm, contents ▸ valid, rfl, ?_⟩⟩
    rw [tryComplete, run, Lib.andThen_ok]
    simp only [inRange, if_false, takeBuffer, afterFits, if_true, Lib.andThen_ok]
    rw [← Incomplete.contents, if_pos valid, contents]
  · refine ⟨{ after with bufferLen := 0 }, .inr (.inl ⟨invalid, rfl, after.contents, input.drop consumed, ?_⟩)⟩
    rw [tryComplete, run, Lib.andThen_ok]
    simp only [inRange, if_false, takeBuffer, afterFits, if_true, Lib.andThen_ok]
    rfl
  · rw [all, List.take_length] at contents
    refine ⟨after, .inr (.inr ⟨contents ▸ stillPart, afterFits, contents, ?_⟩)⟩
    rw [tryComplete, run, Lib.andThen_ok]

end Incomplete

end MonoioTungstenite
