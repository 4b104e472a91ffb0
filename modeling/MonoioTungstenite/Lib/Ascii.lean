import Mathlib.Data.List.Induction
import Mathlib.Tactic.Common

/-! # ASCII text in bytes

Text as a list of bytes: the bytes of a string, comparison without regard to case, and the pieces between
separators.  A word that stands between separators is one of the pieces (`mem_splitOnP`). -/

namespace Lib

/-- The bytes of a text in ASCII. -/
def ascii (text : String) : List UInt8 := text.toList.map fun char => UInt8.ofNat char.toNat

/-- `u8::to_ascii_lowercase` -/
def lowerByte (byte : UInt8) : UInt8 := if 65 ≤ byte ∧ byte ≤ 90 then byte + 32 else byte

def lower (text : List UInt8) : List UInt8 := text.map lowerByte

/-- `eq_ignore_ascii_case` -/
def eqIgnoreCase (left right : List UInt8) : Bool := lower left = lower right

/-- What holds of the 256 bytes, which can be checked, holds of every byte. -/
theorem forall_byte {holds : UInt8 → Prop} (all : ∀ code < 256, holds (UInt8.ofNat code)) (byte : UInt8) :
    holds byte := by
  have this := all byte.toNat byte.toNat_lt
  rwa [UInt8.ofNat_toNat] at this

theorem lowerByte_lowerByte (byte : UInt8) : lowerByte (lowerByte byte) = lowerByte byte := by
  apply @forall_byte fun byte => lowerByte (lowerByte byte) = lowerByte byte
  decide +kernel

@[simp] theorem lower_lower (text : List UInt8) : lower (lower text) = lower text := by
  simp [lower, lowerByte_lowerByte]

theorem lower_eq_nil {text : List UInt8} : lower text = [] ↔ text = [] := List.map_eq_nil_iff

/-- A test of bytes that does not depend on case. -/
theorem all_lower {test : UInt8 → Bool} (same : ∀ byte, test (lowerByte byte) = test byte) (text : List UInt8) :
    (lower text).all test = text.all test := by
  rw [lower, List.all_map]
  apply congrArg
  exact funext same

/-- A text without a separator is passed as a whole. -/
theorem forall_ne_of_not_mem {α : Type} [DecidableEq α] {separator : α} {text : List α} (absent : separator ∉ text) :
    ∀ item ∈ text, decide (item ≠ separator) = true := by
  intro item found
  apply decide_eq_true
  rintro rfl
  exact absent found

/-- Where a word begins: at the start of the text or behind a separator. -/
def BeginsAt {α : Type} (separates : α → Bool) (before : List α) : Prop :=
  before = [] ∨ ∃ earlier separator, before = earlier ++ [separator] ∧ separates separator = true

/-- Where a word ends: at the end of the text or in front of a separator. -/
def EndsAt {α : Type} (separates : α → Bool) (after : List α) : Prop :=
  after = [] ∨ ∃ separator later, after = separator :: later ∧ separates separator = true

/-- A word without separators that stands between separators is one of the pieces. -/
theorem mem_splitOnP {α : Type} {separates : α → Bool} {before word after : List α}
    (whole : ∀ item ∈ word, separates item = false) (begins : BeginsAt separates before)
    (ends : EndsAt separates after) : word ∈ (before ++ word ++ after).splitOnP separates := by
  have front : word ∈ (word ++ after).splitOnP separates := by
    cases ends with
    | inl nothing =>
      rw [nothing, List.append_nil, List.splitOnP_eq_singleton whole]
      exact List.mem_singleton_self word
    | inr stops =>
      obtain ⟨separator, later, rfl, separates⟩ := stops
      rw [List.splitOnP_append_cons_of_forall_mem whole separator separates]
      exact List.mem_cons_self
  cases begins with
  | inl nothing =>
    rw [nothing, List.nil_append]
    exact front
  | inr starts =>
    obtain ⟨earlier, separator, rfl, separates⟩ := starts
    have split : earlier ++ [separator] ++ word ++ after = earlier ++ separator :: (word ++ after) := by simp
    rw [split, List.splitOnP_append_cons _ _ separates]
    exact List.mem_append_right _ front

end Lib
