import MonoioTungstenite.Framing
import MonoioTungstenite.Wire

/-! # Decoding undoes encoding

The bytes of a formatted header are those of a whole one (`encodedBytes`), and reading them gives the header
and the length back.  From there a frame, and then a list of frames with anything behind it, comes out of
the decoder as it went into the encoder. -/

namespace MonoioTungstenite

/-! ## The two first bytes -/

/-- The opcode and the flags do not get in each other's way. -/
theorem flags_apart : ∀ code ∈ ([0, 1, 2, 8, 9, 10] : List UInt8), ∀ isFinal rsv1 rsv2 rsv3 : Bool,
    let byte : UInt8 := code ||| (if isFinal then 0x80 else 0) ||| (if rsv1 then 0x40 else 0) |||
      (if rsv2 then 0x20 else 0) ||| (if rsv3 then 0x10 else 0)
    byte &&& 0x0F = code ∧ decide (byte &&& 0x80 ≠ 0) = isFinal ∧ decide (byte &&& 0x40 ≠ 0) = rsv1 ∧
      decide (byte &&& 0x20 ≠ 0) = rsv2 ∧ decide (byte &&& 0x10 ≠ 0) = rsv3 := by
  intro code found
  simp only [List.mem_cons, List.not_mem_nil, or_false] at found
  rcases found with rfl | rfl | rfl | rfl | rfl | rfl <;> decide

/-- Nor do the length and the flag of the mask. -/
theorem length_apart : ∀ length < 128, ∀ masked : Bool,
    let byte : UInt8 := UInt8.ofNat length ||| (if masked then 0x80 else 0)
    byte &&& 0x7F = UInt8.ofNat length ∧ decide (byte &&& 0x80 ≠ 0) = masked := by
  decide

theorem OpCode.toU8_mem {opcode : OpCode} (known : opcode.isReserved = false) :
    opcode.toU8 ∈ ([0, 1, 2, 8, 9, 10] : List UInt8) := by
  cases opcode with
  | Data data => cases data <;> first | decide | cases known
  | Control control => cases control <;> first | decide | cases known

namespace LengthFormat

theorem lengthByte_lt (length : Nat) :
    ∃ value < 128, (forLength length).lengthByte = UInt8.ofNat value := by
  unfold forLength
  split
  next short => exact ⟨length, by omega, rfl⟩
  next =>
    split
    · exact ⟨126, by decide, rfl⟩
    · exact ⟨127, by decide, rfl⟩

theorem forByte_lengthByte (length : Nat) : forByte (forLength length).lengthByte = forLength length := by
  have small : ∀ value < 126, forByte (UInt8.ofNat value) = .U8 (UInt8.ofNat value) := by decide
  unfold forLength
  split
  next short => exact small length short
  next => split <;> rfl

end LengthFormat

namespace FrameHeader

theorem secondByte_bits (header : FrameHeader) (length : Nat) :
    header.secondByte length &&& 0x7F = (LengthFormat.forLength length).lengthByte ∧
      decide (header.secondByte length &&& 0x80 ≠ 0) = header.mask.isSome := by
  obtain ⟨value, small, same⟩ := LengthFormat.lengthByte_lt length
  rw [secondByte, same]
  exact length_apart value small header.mask.isSome

/-! ## The header -/

theorem lengthSize_secondByte (header : FrameHeader) (length : Nat) :
    lengthSize (header.secondByte length) = (LengthFormat.forLength length).extraBytes := by
  rw [lengthSize, (header.secondByte_bits length).1, LengthFormat.forByte_lengthByte]

theorem maskSize_secondByte (header : FrameHeader) (length : Nat) :
    maskSize (header.secondByte length) = if header.mask.isSome then 4 else 0 := by
  have masked := (header.secondByte_bits length).2
  rw [← masked, maskSize]
  simp only [decide_eq_true_eq]

/-- A formatted header is a whole one. -/
def encodedBytes (header : FrameHeader) (length : Nat) : HeaderBytes where
  first := header.firstByte
  second := header.secondByte length
  lengthField := lengthField length
  maskField := header.maskField
  wholeLength := by
    rw [lengthSize_secondByte, lengthField]
    cases LengthFormat.forLength length <;> simp [LengthFormat.extraBytes]
  wholeMask := by
    rw [maskSize_secondByte, maskField]
    cases header.mask <;> rfl

@[simp] theorem toList_encodedBytes (header : FrameHeader) (length : Nat) :
    (header.encodedBytes length).toList = header.encoded length := rfl

theorem opcode_encodedBytes {header : FrameHeader} (known : header.opcode.isReserved = false) (length : Nat) :
    (header.encodedBytes length).opcode = header.opcode := by
  have low := (flags_apart _ (OpCode.toU8_mem known) header.isFinal header.rsv1 header.rsv2 header.rsv3).1
  have read := (header.encodedBytes length).ofU8_eq
  apply Option.some.inj
  rw [← read, ← OpCode.ofU8_toU8 known]
  exact congrArg OpCode.ofU8 low

theorem declaredMask_maskField (header : FrameHeader) : declaredMask header.maskField = header.mask := by
  obtain ⟨_, _, _, _, _, mask⟩ := header
  cases mask <;> rfl

theorem header_encodedBytes {header : FrameHeader} (known : header.opcode.isReserved = false) (length : Nat) :
    (header.encodedBytes length).header = header := by
  have flags := (flags_apart _ (OpCode.toU8_mem known) header.isFinal header.rsv1 header.rsv2 header.rsv3).2
  have opcode := opcode_encodedBytes known length
  have mask := declaredMask_maskField header
  obtain ⟨isFinal, rsv1, rsv2, rsv3, code, key⟩ := header
  simp only [HeaderBytes.header, mk.injEq]
  exact ⟨flags.1, flags.2.1, flags.2.2.1, flags.2.2.2, opcode, mask⟩

/-- The length comes back in each of the three formats. -/
theorem length_encodedBytes (header : FrameHeader) {length : Nat} (fits : length < 2 ^ 64) :
    (header.encodedBytes length).length = length := by
  have low := (header.secondByte_bits length).1
  have size := lengthSize_secondByte header length
  simp only [HeaderBytes.length, declaredLength, encodedBytes, size, low, lengthField]
  unfold LengthFormat.forLength
  split
  next short => simp [LengthFormat.extraBytes, LengthFormat.lengthByte]; omega
  next => split <;> simp [LengthFormat.extraBytes, Lib.ofBe_toBe] <;> omega

theorem length_encoded (header : FrameHeader) (length : Nat) : (header.encoded length).length = header.len length := by
  rw [← toList_encodedBytes, HeaderBytes.length_toList, sizeOf, len]
  rw [← lengthSize_secondByte header length, ← maskSize_secondByte header length]
  rfl

end FrameHeader

/-! ## The frame -/

@[simp] theorem Frame.length_wirePayload (frame : Frame) : frame.wirePayload.length = frame.payload.length := by
  rw [Frame.wirePayload]
  cases frame.header.mask <;> simp

/-- `Frame::len` counts the bytes of the encoded frame. -/
theorem Frame.length_encoded (frame : Frame) : frame.encoded.length = frame.len := by
  rw [Frame.encoded, List.length_append, FrameHeader.length_encoded, Frame.length_wirePayload, Frame.len]

/-- A frame without its mask. -/
def Frame.unmasked (frame : Frame) : Frame :=
  match frame.header.mask with
  | some _ => { frame with header := { frame.header with mask := none } }
  | none => frame

namespace FrameDecoder

/-- The side of the connection a frame is decoded on: a server takes masked frames and, if it is told to,
unmasked ones; a client takes unmasked ones. -/
def Expects (unmask acceptUnmasked : Bool) (frame : Frame) : Prop :=
  if unmask then frame.isMasked = true ∨ acceptUnmasked = true else frame.isMasked = false

instance (unmask acceptUnmasked : Bool) (frame : Frame) : Decidable (Expects unmask acceptUnmasked frame) :=
  inferInstanceAs (Decidable (if unmask then frame.isMasked = true ∨ acceptUnmasked = true else frame.isMasked = false))

/-- Taking off the mask gives the payload that was masked. -/
theorem finish_wirePayload {decoder : FrameDecoder} {frame : Frame}
    (expected : Expects decoder.unmask decoder.acceptUnmasked frame) :
    decoder.finish frame.header frame.wirePayload = .ok frame.unmasked := by
  obtain ⟨⟨isFinal, rsv1, rsv2, rsv3, opcode, mask⟩, payload⟩ := frame
  unfold Expects at expected
  unfold finish
  cases mask with
  | some mask =>
    have serving : decoder.unmask = true := by
      by_contra client
      simp [client, Frame.isMasked] at expected
    simp [serving, Frame.wirePayload, Frame.unmasked, applyMaskFallback_involutive]
  | none =>
    simp only [Frame.wirePayload, Frame.unmasked]
    split
    next serving =>
      rw [if_pos serving] at expected
      have accepts : decoder.acceptUnmasked = true := by simpa [Frame.isMasked] using expected
      rw [if_pos accepts]
    next => rfl

/-- A decoder that waits for a frame hands out the one that was encoded, and leaves what follows. -/
theorem decode_encoded {width : PointerWidth} {decoder : FrameDecoder} {frame : Frame}
    (fresh : decoder.header = none) (known : frame.header.opcode.isReserved = false)
    (takes : Takes (.unlimited width) decoder.maxFrameSize frame.payload.length)
    (expected : Expects decoder.unmask decoder.acceptUnmasked frame) (rest : List UInt8) :
    decode (.unlimited width) decoder (frame.encoded ++ rest) = (.ok (.Some frame.unmasked), decoder, rest) := by
  have long : frame.payload.length < 2 ^ 64 := by
    have bound := takes.1
    have widest : (Target.unlimited width).usizeMax < 2 ^ 64 := by cases width <;> decide
    omega
  have opcode := FrameHeader.opcode_encodedBytes known frame.payload.length
  rw [Frame.encoded, ← FrameHeader.toList_encodedBytes, List.append_assoc, decode_whole fresh, opcode,
    if_neg (by simp [known]), FrameHeader.header_encodedBytes known, FrameHeader.length_encodedBytes _ long,
    startFrame_takes takes, ← frame.length_wirePayload, decodePayload_whole rfl]
  -- the pending header is used up: the decoder is the one it was
  have same : { decoder with header := none } = decoder := by rw [← fresh]
  simp only [same, finish_wirePayload expected]

/-! ## Streams of frames -/

/-- Calls `decode` a number of times. -/
def decodeTimes (width : PointerWidth) :
    Nat → FrameDecoder → List UInt8 → List (Result (Decoded Frame)) × FrameDecoder × List UInt8
  | 0, decoder, src => ([], decoder, src)
  | count + 1, decoder, src =>
    let (result, decoder, src) := decode (.unlimited width) decoder src
    let (results, decoder, src) := decodeTimes width count decoder src
    (result :: results, decoder, src)

theorem decodeTimes_encoded {width : PointerWidth} {decoder : FrameDecoder} (fresh : decoder.header = none)
    {frames : List Frame} (known : ∀ frame ∈ frames, frame.header.opcode.isReserved = false)
    (takes : ∀ frame ∈ frames, Takes (.unlimited width) decoder.maxFrameSize frame.payload.length)
    (expected : ∀ frame ∈ frames, Expects decoder.unmask decoder.acceptUnmasked frame) (tail : List UInt8) :
    decodeTimes width frames.length decoder (encodeAll frames ++ tail) =
      (frames.map fun frame => .ok (.Some frame.unmasked), decoder, tail) := by
  induction frames with
  | nil => rfl
  | cons frame frames ih =>
    rw [List.forall_mem_cons] at known takes expected
    rw [encodeAll_cons, List.append_assoc, List.length_cons, decodeTimes,
      decode_encoded fresh known.1 takes.1 expected.1]
    simp only [ih known.2 takes.2 expected.2, List.map_cons]

end FrameDecoder

namespace FrameEncoder

/-- Encodes the frames one after the other. -/
def encodeEach (frames : List Frame) (dst : List UInt8) : List UInt8 :=
  frames.foldl (fun dst frame => encode frame dst) dst

theorem encodeEach_eq (frames : List Frame) (dst : List UInt8) :
    encodeEach frames dst = dst ++ encodeAll frames := by
  induction frames generalizing dst with
  | nil => simp [encodeEach]
  | cons frame frames ih =>
    have rest := ih (encode frame dst)
    rw [encodeEach] at rest ⊢
    rw [List.foldl_cons, rest, encode_eq, encodeAll_cons, List.append_assoc]

end FrameEncoder

/-- What was encoded behind some bytes is decoded again, whatever follows it, by a decoder that takes frames of
these lengths from this side. -/
theorem FrameDecoder.decode_encode (width : PointerWidth) (maxFrameSize : Option Nat) (unmask acceptUnmasked : Bool)
    (frames : List Frame) (known : ∀ frame ∈ frames, frame.header.opcode.isReserved = false)
    (takes : ∀ frame ∈ frames, Takes (.unlimited width) maxFrameSize frame.payload.length)
    (expected : ∀ frame ∈ frames, Expects unmask acceptUnmasked frame) (dst tail : List UInt8) :
    ∃ appended : List (List UInt8),
      appended.map List.length = frames.map Frame.len ∧
      FrameEncoder.encodeEach frames dst = dst ++ appended.flatten ∧
      decodeTimes width frames.length
          (default |>.setUnmask unmask |>.setMaxFrameSize maxFrameSize |>.setAcceptUnmasked acceptUnmasked)
          (appended.flatten ++ tail) =
        (frames.map fun frame => .ok (.Some frame.unmasked),
          (default |>.setUnmask unmask |>.setMaxFrameSize maxFrameSize |>.setAcceptUnmasked acceptUnmasked), tail) := by
  refine ⟨frames.map Frame.encoded, ?_, ?_, ?_⟩
  · rw [List.map_map]
    apply List.map_congr_left
    intro frame _
    exact frame.length_encoded
  · exact FrameEncoder.encodeEach_eq frames dst
  · exact decodeTimes_encoded rfl known takes expected tail

/-- A fragment with reserved bits and a masked Ping, behind a byte and in front of two, at a server that accepts
unmasked frames. -/
theorem FrameDecoder.decode_encode_server :
    let frames : List Frame :=
      [⟨⟨false, true, false, true, .Data .Text, none⟩, [1, 2, 3]⟩,
        ⟨⟨true, false, false, false, .Control .Ping, some ⟨1, 2, 3, 4⟩⟩, [5, 6, 7, 8, 9]⟩]
    ∃ appended : List (List UInt8),
      appended.map List.length = frames.map Frame.len ∧
      FrameEncoder.encodeEach frames [0xFF] = [0xFF] ++ appended.flatten ∧
      decodeTimes .w64 frames.length
          (default |>.setUnmask true |>.setMaxFrameSize (some 5) |>.setAcceptUnmasked true)
          (appended.flatten ++ [0x81, 0x7E]) =
        (frames.map fun frame => .ok (.Some frame.unmasked),
          (default |>.setUnmask true |>.setMaxFrameSize (some 5) |>.setAcceptUnmasked true), [0x81, 0x7E]) :=
  FrameDecoder.decode_encode .w64 (some 5) true true _ (by decide) (by decide) (by decide) _ _

end MonoioTungstenite
