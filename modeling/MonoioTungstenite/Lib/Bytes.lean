import Mathlib.Algebra.Group.Nat.Defs
import Mathlib.Data.List.Induction
import Mathlib.Tactic.Common

/-! # Bytes and big-endian integers

`toBe width value` writes the low `width` bytes of a number, most significant first; `ofBe` reads a
byte string of any length.  They are inverse to each other on `width` bytes (`ofBe_toBe`, `toBe_ofBe`).
-/

namespace Lib

theorem ofNat_eq_of_toNat (byte : UInt8) {value : Nat} (same : value % 256 = byte.toNat) :
    UInt8.ofNat value = byte := by
  apply UInt8.toNat.inj
  rw [UInt8.toNat_ofNat', ← same]

def toBe : Nat → Nat → List UInt8
  | 0, _ => []
  | width + 1, value => toBe width (value / 256) ++ [UInt8.ofNat value]

def ofBe (bytes : List UInt8) : Nat := bytes.foldl (fun value byte => value * 256 + byte.toNat) 0

@[simp] theorem length_toBe (width value : Nat) : (toBe width value).length = width := by
  induction width generalizing value with
  | zero => rfl
  | succ width inductionHypothesis => simp [toBe, inductionHypothesis]

@[simp] theorem ofBe_nil : ofBe [] = 0 := rfl

theorem ofBe_concat (bytes : List UInt8) (byte : UInt8) :
    ofBe (bytes ++ [byte]) = ofBe bytes * 256 + byte.toNat := by
  simp [ofBe]

/-- Reading back what was written gives the number modulo what fits. -/
theorem ofBe_toBe (width value : Nat) : ofBe (toBe width value) = value % 256 ^ width := by
  induction width generalizing value with
  | zero => simp [toBe, Nat.mod_one]
  | succ width inductionHypothesis =>
    rw [toBe, ofBe_concat, inductionHypothesis, Nat.pow_succ, Nat.mul_comm (256 ^ width) 256, Nat.mod_mul,
      UInt8.toNat_ofNat']
    omega

theorem ofBe_lt (bytes : List UInt8) : ofBe bytes < 256 ^ bytes.length := by
  induction bytes using List.reverseRecOn with
  | nil => simp
  | append_singleton bytes byte inductionHypothesis =>
    have bound := byte.toNat_lt
    rw [ofBe_concat, List.length_append, List.length_singleton, Nat.pow_succ]
    omega

theorem toBe_ofBe (bytes : List UInt8) : toBe bytes.length (ofBe bytes) = bytes := by
  induction bytes using List.reverseRecOn with
  | nil => rfl
  | append_singleton bytes byte inductionHypothesis =>
    have bound := byte.toNat_lt
    have quotient : (ofBe bytes * 256 + byte.toNat) / 256 = ofBe bytes := by omega
    have last : UInt8.ofNat (ofBe bytes * 256 + byte.toNat) = byte := ofNat_eq_of_toNat byte (by omega)
    rw [ofBe_concat, List.length_append, List.length_singleton, toBe, quotient, inductionHypothesis, last]

end Lib
