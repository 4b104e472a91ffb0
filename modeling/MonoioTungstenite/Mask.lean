import Mathlib.Data.Nat.Bitwise
import MonoioTungstenite.Lib.Bytes

/-! # Masking

`protocol/frame/mask.rs`: the byte-wise and the word-wise application of a mask.  Words are `u32`
values, read from and written to memory in the order of bytes of the target; how `align_to_mut`
splits a buffer is a parameter (`Aligned`), since it depends on the address.

`applyMaskFast32_eq` shows that neither the order of bytes nor the split matters, so `applyMask` may
take any of them; `applyMaskFallback_involutive` is what the decoder relies on. -/

namespace MonoioTungstenite

/-- `[u8; 4]` -/
structure Bytes4 where
  b0 : UInt8
  b1 : UInt8
  b2 : UInt8
  b3 : UInt8
  deriving DecidableEq, Repr

namespace Bytes4

def toList (bytes : Bytes4) : List UInt8 := [bytes.b0, bytes.b1, bytes.b2, bytes.b3]

/-- `bytes[i & 3]` -/
def byte (bytes : Bytes4) (i : Nat) : UInt8 :=
  match i % 4 with
  | 0 => bytes.b0
  | 1 => bytes.b1
  | 2 => bytes.b2
  | _ => bytes.b3

@[simp] theorem length_toList (bytes : Bytes4) : bytes.toList.length = 4 := rfl

end Bytes4

abbrev Mask := Bytes4

/-- The order of the bytes of an integer in memory. -/
inductive Endian where
  | little
  | big
  deriving DecidableEq, Repr

/-- `u32::from_ne_bytes` -/
def u32FromNeBytes : Endian → Bytes4 → Nat
  | .little, ⟨b0, b1, b2, b3⟩ => b0.toNat + b1.toNat * 2 ^ 8 + b2.toNat * 2 ^ 16 + b3.toNat * 2 ^ 24
  | .big, ⟨b0, b1, b2, b3⟩ => b3.toNat + b2.toNat * 2 ^ 8 + b1.toNat * 2 ^ 16 + b0.toNat * 2 ^ 24

/-- `u32::to_ne_bytes` -/
def u32ToNeBytes (endian : Endian) (word : Nat) : Bytes4 :=
  let byteAt := fun i => UInt8.ofNat (word / 2 ^ (8 * i))
  match endian with
  | .little => ⟨byteAt 0, byteAt 1, byteAt 2, byteAt 3⟩
  | .big => ⟨byteAt 3, byteAt 2, byteAt 1, byteAt 0⟩

/-- `u32::rotate_left` -/
def rotateLeft (word count : Nat) : Nat := word * 2 ^ count % 2 ^ 32 + word / 2 ^ (32 - count)

/-- `u32::rotate_right` -/
def rotateRight (word count : Nat) : Nat := word / 2 ^ count + word * 2 ^ (32 - count) % 2 ^ 32

/-- A split of a buffer as `align_to_mut::<u32>` returns it. -/
structure Aligned (buf : List UInt8) where
  head : List UInt8
  words : List Bytes4
  tail : List UInt8
  splits : head ++ words.flatMap Bytes4.toList ++ tail = buf

/-- The whole words at the front of a buffer, and the bytes left over. -/
def wordsOf : List UInt8 → List Bytes4 × List UInt8
  | b0 :: b1 :: b2 :: b3 :: rest => (⟨b0, b1, b2, b3⟩ :: (wordsOf rest).1, (wordsOf rest).2)
  | buf => ([], buf)

theorem wordsOf_splits (buf : List UInt8) :
    (wordsOf buf).1.flatMap Bytes4.toList ++ (wordsOf buf).2 = buf := by
  fun_induction wordsOf buf with
  | case1 b0 b1 b2 b3 rest inductionHypothesis =>
    simpa [Bytes4.toList] using inductionHypothesis
  | case2 buf => simp

/-- The split of a buffer that starts on a word boundary. -/
def Aligned.onBoundary (buf : List UInt8) : Aligned buf :=
  ⟨[], (wordsOf buf).1, (wordsOf buf).2, wordsOf_splits buf⟩

/-- `apply_mask_fallback`: byte `i` is combined with `mask[i & 3]`. -/
def applyMaskFallback (buf : List UInt8) (mask : Mask) : List UInt8 :=
  buf.mapIdx fun i byte => byte ^^^ mask.byte i

/-- `apply_mask_fast32`, for one order of bytes and one split of the buffer. -/
def applyMaskFast32 (endian : Endian) {buf : List UInt8} (split : Aligned buf) (mask : Mask) : List UInt8 :=
  let maskU32 := u32FromNeBytes endian mask
  let head := split.head.length % 4
  let maskU32 :=
    if 0 < head then
      match endian with
      | .big => rotateLeft maskU32 (8 * head)
      | .little => rotateRight maskU32 (8 * head)
    else maskU32
  applyMaskFallback split.head mask ++
    split.words.flatMap (fun word => (u32ToNeBytes endian (u32FromNeBytes endian word ^^^ maskU32)).toList) ++
    applyMaskFallback split.tail (u32ToNeBytes endian maskU32)

/-- `apply_mask` -/
def applyMask (buf : List UInt8) (mask : Mask) : List UInt8 :=
  applyMaskFast32 .little (Aligned.onBoundary buf) mask

/-! ## The word-wise mask is the byte-wise mask -/

/-- The mask as seen `count` bytes into a buffer. -/
def Bytes4.shift (mask : Mask) (count : Nat) : Mask :=
  ⟨mask.byte count, mask.byte (count + 1), mask.byte (count + 2), mask.byte (count + 3)⟩

theorem Bytes4.byte_congr (mask : Mask) {i j : Nat} (same : i % 4 = j % 4) : mask.byte i = mask.byte j := by
  rw [Bytes4.byte, Bytes4.byte, same]

theorem Bytes4.byte_shift (mask : Mask) (count i : Nat) : (mask.shift count).byte i = mask.byte (count + i) := by
  have shifted : (mask.shift count).byte i = mask.byte (count + i % 4) := by
    have small : i % 4 < 4 := Nat.mod_lt _ (by omega)
    unfold Bytes4.byte Bytes4.shift
    match i % 4, small with
    | 0, _ | 1, _ | 2, _ | 3, _ => rfl
  rw [shifted]
  exact mask.byte_congr (by omega)

theorem Bytes4.shift_congr (mask : Mask) {i j : Nat} (same : i % 4 = j % 4) : mask.shift i = mask.shift j := by
  simp only [Bytes4.shift, Bytes4.mk.injEq]
  exact ⟨mask.byte_congr same, mask.byte_congr (by omega), mask.byte_congr (by omega),
    mask.byte_congr (by omega)⟩

@[simp] theorem Bytes4.shift_zero (mask : Mask) : mask.shift 0 = mask := rfl

@[simp] theorem length_applyMaskFallback (buf : List UInt8) (mask : Mask) :
    (applyMaskFallback buf mask).length = buf.length := by
  simp [applyMaskFallback]

/-- Masking goes on in a second buffer with the mask shifted by the length of the first. -/
theorem applyMaskFallback_append (first second : List UInt8) (mask : Mask) :
    applyMaskFallback (first ++ second) mask =
      applyMaskFallback first mask ++ applyMaskFallback second (mask.shift first.length) := by
  simp only [applyMaskFallback, List.mapIdx_append, Bytes4.byte_shift, Nat.add_comm]

/-- Combining two values byte by byte. -/
def Bytes4.xor (left right : Bytes4) : Bytes4 :=
  ⟨left.b0 ^^^ right.b0, left.b1 ^^^ right.b1, left.b2 ^^^ right.b2, left.b3 ^^^ right.b3⟩

theorem applyMaskFallback_word (word : Bytes4) (mask : Mask) :
    applyMaskFallback word.toList mask = (word.xor mask).toList := rfl

theorem applyMaskFallback_words (words : List Bytes4) (mask : Mask) :
    applyMaskFallback (words.flatMap Bytes4.toList) mask = words.flatMap fun word => (word.xor mask).toList := by
  induction words with
  | nil => rfl
  | cons word words inductionHypothesis =>
    rw [List.flatMap_cons, List.flatMap_cons, applyMaskFallback_append, applyMaskFallback_word,
      Bytes4.length_toList, mask.shift_congr (i := 4) (j := 0) rfl, Bytes4.shift_zero, inductionHypothesis]

theorem u32ToNeBytes_fromNeBytes (endian : Endian) (bytes : Bytes4) :
    u32ToNeBytes endian (u32FromNeBytes endian bytes) = bytes := by
  obtain ⟨b0, b1, b2, b3⟩ := bytes
  have h0 := b0.toNat_lt
  have h1 := b1.toNat_lt
  have h2 := b2.toNat_lt
  have h3 := b3.toNat_lt
  cases endian <;> simp only [u32ToNeBytes, u32FromNeBytes, Bytes4.mk.injEq] <;>
    exact ⟨Lib.ofNat_eq_of_toNat b0 (by omega), Lib.ofNat_eq_of_toNat b1 (by omega),
      Lib.ofNat_eq_of_toNat b2 (by omega), Lib.ofNat_eq_of_toNat b3 (by omega)⟩

theorem ofNat_xor (left right : Nat) : UInt8.ofNat (left ^^^ right) = UInt8.ofNat left ^^^ UInt8.ofNat right := by
  apply UInt8.toNat.inj
  rw [UInt8.toNat_xor, UInt8.toNat_ofNat', UInt8.toNat_ofNat', UInt8.toNat_ofNat']
  exact Nat.xor_mod_two_pow (n := 8)

theorem u32ToNeBytes_xor (endian : Endian) (left right : Nat) :
    u32ToNeBytes endian (left ^^^ right) = (u32ToNeBytes endian left).xor (u32ToNeBytes endian right) := by
  cases endian <;> simp only [u32ToNeBytes, Bytes4.xor, Nat.xor_div_two_pow, ofNat_xor]

/-- The rotation of the source, on either order of bytes, moves the mask by whole bytes. -/
theorem rotate_eq_shift (endian : Endian) (mask : Mask) {head : Nat} (positive : 0 < head) (small : head < 4) :
    (match endian with
      | .big => rotateLeft (u32FromNeBytes endian mask) (8 * head)
      | .little => rotateRight (u32FromNeBytes endian mask) (8 * head)) =
    u32FromNeBytes endian (mask.shift head) := by
  obtain ⟨b0, b1, b2, b3⟩ := mask
  have h0 := b0.toNat_lt
  have h1 := b1.toNat_lt
  have h2 := b2.toNat_lt
  have h3 := b3.toNat_lt
  obtain rfl | rfl | rfl : head = 1 ∨ head = 2 ∨ head = 3 := by omega
  all_goals
    cases endian <;>
      simp only [u32FromNeBytes, rotateLeft, rotateRight, Bytes4.shift, Bytes4.byte] <;> omega

/-- The mask the source computes for the words and the tail is the mask shifted by the head. -/
theorem u32ToNeBytes_maskU32 (endian : Endian) (mask : Mask) (length : Nat) :
    u32ToNeBytes endian (if 0 < length % 4 then
        match endian with
        | .big => rotateLeft (u32FromNeBytes endian mask) (8 * (length % 4))
        | .little => rotateRight (u32FromNeBytes endian mask) (8 * (length % 4))
      else u32FromNeBytes endian mask) = mask.shift length := by
  split
  next positive =>
    rw [rotate_eq_shift endian mask positive (Nat.mod_lt _ (by omega)), u32ToNeBytes_fromNeBytes]
    exact mask.shift_congr (by omega)
  next whole =>
    rw [u32ToNeBytes_fromNeBytes, mask.shift_congr (i := length) (j := 0) (by omega), Bytes4.shift_zero]

/-- Neither the order of bytes nor the split of the buffer matters. -/
theorem applyMaskFast32_eq (endian : Endian) {buf : List UInt8} (split : Aligned buf) (mask : Mask) :
    applyMaskFast32 endian split mask = applyMaskFallback buf mask := by
  obtain ⟨head, words, tail, rfl⟩ := split
  have maskU32 := u32ToNeBytes_maskU32 endian mask head.length
  have whole : (words.flatMap Bytes4.toList).length = 4 * words.length := by
    induction words with
    | nil => rfl
    | cons word words inductionHypothesis =>
      rw [List.flatMap_cons, List.length_append, inductionHypothesis, Bytes4.length_toList, List.length_cons]
      omega
  have behind : mask.shift (head ++ words.flatMap Bytes4.toList).length = mask.shift head.length :=
    mask.shift_congr (by rw [List.length_append, whole]; omega)
  rw [applyMaskFallback_append, applyMaskFallback_append, applyMaskFallback_words, behind]
  simp only [applyMaskFast32, u32ToNeBytes_xor, u32ToNeBytes_fromNeBytes, maskU32]

@[simp] theorem applyMask_eq_fallback (buf : List UInt8) (mask : Mask) :
    applyMask buf mask = applyMaskFallback buf mask :=
  applyMaskFast32_eq _ _ mask

/-- Masking twice restores the buffer. -/
theorem applyMaskFallback_involutive (buf : List UInt8) (mask : Mask) :
    applyMaskFallback (applyMaskFallback buf mask) mask = buf := by
  apply List.ext_getElem
  · simp
  · intro i _ _
    simp only [applyMaskFallback, List.getElem_mapIdx]
    rw [UInt8.xor_assoc, UInt8.xor_self, UInt8.xor_zero]

/-- The word-wise mask combines byte `i` with byte `i mod 4` of the mask, as the byte-wise one does; applied
again, on any machine and wherever the buffer lies, it restores the buffer. -/
theorem applyMaskFast32_bytewise (endian : Endian) {buf : List UInt8} (split : Aligned buf) (mask : Mask) :
    (∀ i, (applyMaskFast32 endian split mask)[i]? = buf[i]?.map (· ^^^ mask.byte i)) ∧
    applyMaskFast32 endian split mask = applyMaskFallback buf mask ∧
    ∀ (other : Endian) (again : Aligned (applyMaskFast32 endian split mask)),
      applyMaskFast32 other again mask = buf := by
  have bytewise := applyMaskFast32_eq endian split mask
  refine ⟨fun i => ?_, bytewise, fun other again => ?_⟩
  · rw [bytewise, applyMaskFallback, List.getElem?_mapIdx]
  · rw [applyMaskFast32_eq, bytewise, applyMaskFallback_involutive]

end MonoioTungstenite
