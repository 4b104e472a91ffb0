import MonoioTungstenite.Lib.Ascii
import MonoioTungstenite.RoundTrip

/-! # Parsing is exact

A header is parsed exactly if all of its bytes are there, and then what follows does not matter
(`parse_exact`).  Formatting gives back the bytes it was parsed from if these had the length in its shortest
form, and fewer bytes otherwise.  The formatter and the encoder write the same (`format_encode`). -/

namespace MonoioTungstenite

namespace FrameHeader

/-- The formatter of `frame.rs` is that of the encoder. -/
theorem format_eq (header : FrameHeader) (length : Nat) (output : List UInt8) :
    header.format length output = output ++ header.encoded length := by
  simp only [format, encoded, lengthField, maskField]
  cases LengthFormat.forLength length <;> cases header.mask <;> simp

/-! ## The first byte -/

/-- The opcode and the flags of a byte make up the byte. -/
theorem firstByte_of_bits (first : UInt8) :
    (first &&& 0x0F) ||| (if first &&& 0x80 ≠ 0 then 0x80 else 0) ||| (if first &&& 0x40 ≠ 0 then 0x40 else 0) |||
      (if first &&& 0x20 ≠ 0 then 0x20 else 0) ||| (if first &&& 0x10 ≠ 0 then 0x10 else 0) = first := by
  apply @Lib.forall_byte fun first =>
    (first &&& 0x0F) ||| (if first &&& 0x80 ≠ 0 then 0x80 else 0) ||| (if first &&& 0x40 ≠ 0 then 0x40 else 0) |||
      (if first &&& 0x20 ≠ 0 then 0x20 else 0) ||| (if first &&& 0x10 ≠ 0 then 0x10 else 0) = first
  decide +kernel

theorem secondByte_of_bits (second : UInt8) :
    (second &&& 0x7F) ||| (if second &&& 0x80 ≠ 0 then 0x80 else 0) = second := by
  apply @Lib.forall_byte fun second => (second &&& 0x7F) ||| (if second &&& 0x80 ≠ 0 then 0x80 else 0) = second
  decide +kernel

end FrameHeader

theorem OpCode.toU8_ofU8 {byte : UInt8} {opcode : OpCode} (read : OpCode.ofU8 byte = some opcode) :
    opcode.toU8 = byte := by
  unfold OpCode.ofU8 at read
  split_ifs at read <;> cases read <;> simp_all [OpCode.toU8]

namespace FrameHeader

namespace HeaderBytes

theorem firstByte_header (bytes : HeaderBytes) : bytes.header.firstByte = bytes.first := by
  have opcode : bytes.opcode.toU8 = bytes.first &&& 0x0F := OpCode.toU8_ofU8 bytes.ofU8_eq
  rw [firstByte]
  simp only [header, opcode, decide_eq_true_eq]
  exact firstByte_of_bits bytes.first

theorem maskField_header (bytes : HeaderBytes) : bytes.header.maskField = bytes.maskField := by
  have whole := bytes.wholeMask
  rw [maskSize] at whole
  rw [FrameHeader.maskField, show bytes.header.mask = declaredMask bytes.maskField from rfl]
  split at whole
  · obtain ⟨_, _, _, _, field⟩ := List.length_eq_four.mp whole
    rw [field]
    rfl
  · rw [List.length_eq_zero_iff.mp whole]
    rfl

theorem isMasked_header (bytes : HeaderBytes) : bytes.header.mask.isSome = decide (bytes.second &&& 0x80 ≠ 0) := by
  have whole := bytes.wholeMask
  rw [maskSize] at whole
  show (declaredMask bytes.maskField).isSome = _
  split at whole
  next masked =>
    obtain ⟨_, _, _, _, field⟩ := List.length_eq_four.mp whole
    rw [decide_eq_true masked, field]
    rfl
  next unmasked =>
    rw [decide_eq_false unmasked, List.length_eq_zero_iff.mp whole]
    rfl

/-- The three forms in which a length may stand. -/
inductive LengthForm (bytes : HeaderBytes) : Prop
  | short (small : (bytes.second &&& 0x7F).toNat < 126) (field : bytes.lengthField = [])
    (length : bytes.length = (bytes.second &&& 0x7F).toNat)
  | medium (code : bytes.second &&& 0x7F = 126) (field : bytes.lengthField.length = 2)
    (length : bytes.length = Lib.ofBe bytes.lengthField)
  | long (code : bytes.second &&& 0x7F = 127) (field : bytes.lengthField.length = 8)
    (length : bytes.length = Lib.ofBe bytes.lengthField)

theorem lengthForm (bytes : HeaderBytes) : bytes.LengthForm := by
  have whole := bytes.wholeLength
  have again : bytes.second &&& 0x7F &&& 0x7F = bytes.second &&& 0x7F := by
    rw [UInt8.and_assoc]
    rfl
  have declared : bytes.length = declaredLength bytes.second bytes.lengthField := rfl
  rw [declaredLength] at declared
  simp only [lengthSize, LengthFormat.forByte, again] at whole declared
  by_cases medium : bytes.second &&& 0x7F = 126
  · simp only [medium, if_true, LengthFormat.extraBytes] at whole declared
    exact .medium medium whole (declared.trans (if_pos (by decide)))
  · by_cases long : bytes.second &&& 0x7F = 127
    · simp only [long] at whole declared
      exact .long long whole (declared.trans (if_pos (by decide)))
    · simp only [if_neg medium, if_neg long, LengthFormat.extraBytes] at whole declared
      have low : (bytes.second &&& 0x7F).toNat ≤ 127 := by
        rw [UInt8.toNat_and]
        exact Nat.and_le_right
      have not126 : (bytes.second &&& 0x7F).toNat ≠ 126 := fun same => medium (UInt8.toNat.inj same)
      have not127 : (bytes.second &&& 0x7F).toNat ≠ 127 := fun same => long (UInt8.toNat.inj same)
      exact .short (by omega) (List.length_eq_zero_iff.mp whole) (declared.trans (if_neg (by decide)))

theorem encoded_of_length {bytes : HeaderBytes}
    (byte : (LengthFormat.forLength bytes.length).lengthByte = bytes.second &&& 0x7F)
    (field : FrameHeader.lengthField bytes.length = bytes.lengthField) :
    bytes.header.encoded bytes.length = bytes.toList := by
  have second : bytes.header.secondByte bytes.length = bytes.second := by
    rw [secondByte, byte, bytes.isMasked_header]
    simp only [decide_eq_true_eq]
    exact secondByte_of_bits bytes.second
  rw [encoded, toList, bytes.firstByte_header, second, field, bytes.maskField_header]

theorem len_header (bytes : HeaderBytes) (length : Nat) :
    bytes.header.len length = 2 + (LengthFormat.forLength length).extraBytes + maskSize bytes.second := by
  rw [len, bytes.isMasked_header, maskSize]
  simp only [decide_eq_true_eq]

end HeaderBytes

/-- The length stands in its shortest form: no shorter field has room for it. -/
def ShortestForm : List UInt8 → Nat → Prop
  | _ :: second :: _, length => (second &&& 0x7F = 126 → 126 ≤ length) ∧ (second &&& 0x7F = 127 → 65536 ≤ length)
  | _, _ => False

/-- Formatting gives back the bytes of a header, or fewer. -/
theorem HeaderBytes.encoded_cases (bytes : HeaderBytes) :
    (bytes.header.encoded bytes.length = bytes.toList ∧ ShortestForm bytes.toList bytes.length) ∨
      (bytes.header.len bytes.length < bytes.toList.length ∧ ¬ ShortestForm bytes.toList bytes.length) := by
  have shortest : ShortestForm bytes.toList bytes.length ↔
      (bytes.second &&& 0x7F = 126 → 126 ≤ bytes.length) ∧ (bytes.second &&& 0x7F = 127 → 65536 ≤ bytes.length) :=
    Iff.rfl
  have total : bytes.toList.length = 2 + bytes.lengthField.length + maskSize bytes.second := by
    rw [bytes.length_toList, sizeOf, bytes.wholeLength]
  have formatted := bytes.len_header bytes.length
  rw [shortest, total, formatted]
  cases bytes.lengthForm with
  | short small field length =>
    have format : LengthFormat.forLength bytes.length = .U8 (bytes.second &&& 0x7F) := by
      rw [LengthFormat.forLength, length, if_pos small, UInt8.ofNat_toNat]
    refine .inl ⟨encoded_of_length (by rw [format]; rfl) (by rw [FrameHeader.lengthField, format, field]), ?_, ?_⟩
    · intro code
      rw [code] at small
      exact absurd small (by decide)
    · intro code
      rw [code] at small
      exact absurd small (by decide)
  | medium code field length =>
    have bound := Lib.ofBe_lt bytes.lengthField
    rw [field, ← length] at bound
    by_cases large : 126 ≤ bytes.length
    · have format : LengthFormat.forLength bytes.length = .U16 := by
        rw [LengthFormat.forLength, if_neg (by omega), if_pos (by omega)]
      have same := Lib.toBe_ofBe bytes.lengthField
      rw [field, ← length] at same
      refine .inl ⟨encoded_of_length (by rw [format, code]; rfl) (by rw [FrameHeader.lengthField, format]; exact same), ?_, ?_⟩
      · exact fun _ => large
      · intro other
        rw [code] at other
        cases other
    · have format : (LengthFormat.forLength bytes.length).extraBytes = 0 := by
        rw [LengthFormat.forLength, if_pos (by omega)]
        rfl
      exact .inr ⟨by omega, fun shortest => large (shortest.1 code)⟩
  | long code field length =>
    by_cases large : 65536 ≤ bytes.length
    · have format : LengthFormat.forLength bytes.length = .U64 := by
        rw [LengthFormat.forLength, if_neg (by omega), if_neg (by omega)]
      have same := Lib.toBe_ofBe bytes.lengthField
      rw [field, ← length] at same
      refine .inl ⟨encoded_of_length (by rw [format, code]; rfl) (by rw [FrameHeader.lengthField, format]; exact same), ?_, ?_⟩
      · intro other
        rw [code] at other
        cases other
      · exact fun _ => large
    · have format : (LengthFormat.forLength bytes.length).extraBytes ≤ 2 := by
        rw [LengthFormat.forLength]
        split
        · exact Nat.zero_le _
        · rw [if_pos (by omega)]
          exact Nat.le_refl _
      exact .inr ⟨by omega, fun shortest => large (shortest.2 code)⟩

/-! ## The parser -/

/-- Where a parser stands that does not wait for more bytes. -/
theorem parse_settled {bytes : List UInt8} {position : Nat} (settled : (parse ⟨bytes, position⟩).1 ≠ .ok none) :
    ∃ (header : HeaderBytes) (rest : List UInt8), bytes.drop position = header.toList ++ rest := by
  apply exists_whole
  intro cut
  exact settled (by rw [parse_cut ⟨bytes, position⟩ cut])

theorem parse_none_iff (bytes : List UInt8) (position : Nat) :
    (parse ⟨bytes, position⟩).1 = .ok none ↔ IsCut (bytes.drop position) := by
  constructor
  · intro none
    by_contra notCut
    obtain ⟨header, rest, split⟩ := exists_whole notCut
    rw [parse_whole ⟨bytes, position⟩ split] at none
    split at none <;> cases none
  · intro cut
    rw [parse_cut ⟨bytes, position⟩ cut]

/-- What stands behind a header changes neither what is parsed nor where the cursor stops. -/
theorem parse_append {bytes : List UInt8} {position : Nat} (settled : (parse ⟨bytes, position⟩).1 ≠ .ok none)
    (more : List UInt8) :
    (parse ⟨bytes ++ more, position⟩).1 = (parse ⟨bytes, position⟩).1 ∧
      (parse ⟨bytes ++ more, position⟩).2.position = (parse ⟨bytes, position⟩).2.position := by
  obtain ⟨header, rest, split⟩ := parse_settled settled
  -- the cursor stands inside the bytes, so that what is appended stands behind the header
  have inside : position ≤ bytes.length := by
    have length := congrArg List.length split
    rw [List.length_drop, List.length_append, header.length_toList, sizeOf] at length
    omega
  have longer : (bytes ++ more).drop position = header.toList ++ (rest ++ more) := by
    rw [List.drop_append_of_le_length inside, split, List.append_assoc]
  rw [parse_whole ⟨bytes, position⟩ split, parse_whole ⟨bytes ++ more, position⟩ longer]
  exact ⟨rfl, rfl⟩

/-- A header that has been read is written in no more bytes, and in as many exactly if its length was in its shortest
form. -/
theorem HeaderBytes.len_format (bytes : HeaderBytes) :
    bytes.header.len bytes.length ≤ bytes.toList.length ∧
      (bytes.header.len bytes.length = bytes.toList.length ↔ bytes.header.format bytes.length [] = bytes.toList) ∧
      (bytes.header.format bytes.length [] = bytes.toList ↔ ShortestForm bytes.toList bytes.length) := by
  rw [format_eq, List.nil_append, ← bytes.header.length_encoded]
  cases bytes.encoded_cases with
  | inl canonical =>
    rw [canonical.1]
    exact ⟨Nat.le_refl _, iff_of_true rfl rfl, iff_of_true rfl canonical.2⟩
  | inr longer =>
    rw [← bytes.header.length_encoded] at longer
    have differs : bytes.header.encoded bytes.length ≠ bytes.toList := by
      intro same
      rw [same] at longer
      exact Nat.lt_irrefl _ longer.1
    exact ⟨Nat.le_of_lt longer.1, iff_of_false (Nat.ne_of_lt longer.1) differs, iff_of_false differs longer.2⟩

/-- Parsing undoes formatting, in front of whatever follows. -/
theorem parse_format {header : FrameHeader} (known : header.opcode.isReserved = false) {length : Nat}
    (fits : length < 2 ^ 64) {bytes rest : List UInt8} {position : Nat}
    (split : bytes.drop position = header.format length [] ++ rest) :
    parse ⟨bytes, position⟩ = (.ok (some (header, length)), ⟨bytes, position + header.len length⟩) := by
  rw [format_eq, List.nil_append, ← toList_encodedBytes] at split
  rw [parse_whole ⟨bytes, position⟩ split, opcode_encodedBytes known, if_neg (by rw [known]; exact Bool.false_ne_true),
    header_encodedBytes known, length_encodedBytes _ fits, toList_encodedBytes, length_encoded]
  rfl

/-- Parsing a header is exact: it waits exactly if the header is cut, and consumes nothing then; it does not look
behind the header; it undoes formatting; and formatting undoes it where the length was in its shortest form, and
gives fewer bytes elsewhere. -/
theorem parse_exact (bytes : List UInt8) (position : Nat) :
    let run := parse ⟨bytes, position⟩
    (run.1 = .ok none ↔ IsCut (bytes.drop position)) ∧
    (run.1 = .ok none → run.2 = ⟨bytes, position⟩) ∧
    (run.1 ≠ .ok none → ∀ more, (parse ⟨bytes ++ more, position⟩).1 = run.1 ∧
      (parse ⟨bytes ++ more, position⟩).2.position = run.2.position) ∧
    (∀ (header : FrameHeader) (length : Nat), run.1 = .ok (some (header, length)) →
      ∃ consumed rest, bytes.drop position = consumed ++ rest ∧ run.2.position = position + consumed.length ∧
        header.len length ≤ consumed.length ∧
        (header.len length = consumed.length ↔ header.format length [] = consumed) ∧
        (header.format length [] = consumed ↔ ShortestForm consumed length)) ∧
    ∀ (header : FrameHeader) (length : Nat) (rest : List UInt8), header.opcode.isReserved = false → length < 2 ^ 64 →
      bytes.drop position = header.format length [] ++ rest →
      run = (.ok (some (header, length)), ⟨bytes, position + header.len length⟩) := by
  intro run
  refine ⟨parse_none_iff bytes position, ?_, parse_append, ?_, ?_⟩
  · intro none
    have cut := (parse_none_iff bytes position).mp none
    exact congrArg Prod.snd (parse_cut ⟨bytes, position⟩ cut)
  · intro header length parsed
    obtain ⟨whole, rest, split⟩ := parse_settled (by rw [show (parse _).1 = _ from parsed]; simp)
    have result : run = _ := parse_whole ⟨bytes, position⟩ split
    rw [result] at parsed
    have same : whole.header = header ∧ whole.length = length := by
      split at parsed
      · cases parsed
      · cases parsed
        exact ⟨rfl, rfl⟩
    obtain ⟨rfl, rfl⟩ := same
    exact ⟨whole.toList, rest, split, by rw [result]; rfl, whole.len_format⟩
  · intro header length rest known fits split
    exact parse_format known fits split

/-- A masked Ping behind a byte and in front of one, and one that is cut. -/
theorem parse_exact_ping :
    let header : FrameHeader := ⟨true, false, false, false, .Control .Ping, some ⟨1, 2, 3, 4⟩⟩
    let bytes : List UInt8 := [0xFF, 0x89, 0x81, 1, 2, 3, 4, 9]
    (parse ⟨[0x89, 0x81, 1], 0⟩).2 = ⟨[0x89, 0x81, 1], 0⟩ ∧
    (∀ more, (parse ⟨bytes ++ more, 1⟩).1 = (parse ⟨bytes, 1⟩).1 ∧
      (parse ⟨bytes ++ more, 1⟩).2.position = (parse ⟨bytes, 1⟩).2.position) ∧
    (∃ consumed rest, bytes.drop 1 = consumed ++ rest ∧ (parse ⟨bytes, 1⟩).2.position = 1 + consumed.length ∧
      header.len 1 ≤ consumed.length ∧
      (header.len 1 = consumed.length ↔ header.format 1 [] = consumed) ∧
      (header.format 1 [] = consumed ↔ ShortestForm consumed 1)) ∧
    parse ⟨bytes, 1⟩ = (.ok (some (header, 1)), ⟨bytes, 1 + header.len 1⟩) := by
  intro header bytes
  have cut := parse_exact [0x89, 0x81, 1] 0
  have whole := parse_exact bytes 1
  exact ⟨cut.2.1 (by rfl), whole.2.2.1 (by nofun), whole.2.2.2.1 header 1 (by rfl),
    whole.2.2.2.2 header 1 [9] rfl (by decide) (by decide)⟩

end FrameHeader

/-! ## Two serialisers -/

/-- The encoder and the formatter append the same bytes: the header, in as many bytes as it says, and the payload as
it stands on the wire. -/
theorem Frame.format_encode (frame : Frame) (dst output : List UInt8) :
    ∃ header, FrameEncoder.encode frame dst = dst ++ (header ++ frame.wirePayload) ∧
      frame.format output = output ++ (header ++ frame.wirePayload) ∧
      (header ++ frame.wirePayload).length = frame.len ∧
      header.length = frame.header.len frame.payload.length := by
  refine ⟨frame.header.encoded frame.payload.length, FrameEncoder.encode_eq frame dst, ?_, frame.length_encoded,
    frame.header.length_encoded _⟩
  rw [Frame.format, FrameHeader.format_eq, Frame.wirePayload]
  cases frame.header.mask with
  | some mask => simp only [applyMask_eq_fallback, List.append_assoc]
  | none => simp only [List.append_assoc]

end MonoioTungstenite
