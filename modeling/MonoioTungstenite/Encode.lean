import MonoioTungstenite.Frame

/-! # Encoding frames

`protocol/frame/codec/encode.rs`.  Encoding always succeeds, so the model returns the new content of
the destination; `encode_eq` says that it appends `Frame.encoded`. -/

namespace MonoioTungstenite

namespace FrameEncoder

def writeHeader (header : FrameHeader) (length : Nat) (dst : List UInt8) : List UInt8 :=
  let code := header.opcode.toU8
  let one := code ||| (if header.isFinal then 0x80 else 0) ||| (if header.rsv1 then 0x40 else 0) |||
    (if header.rsv2 then 0x20 else 0) ||| (if header.rsv3 then 0x10 else 0)
  let lenfmt := LengthFormat.forLength length
  let two := lenfmt.lengthByte ||| (if header.mask.isSome then 0x80 else 0)
  let dst := dst ++ [one, two]
  let dst :=
    match lenfmt with
    | .U8 _ => dst
    | .U16 => dst ++ Lib.toBe 2 length
    | .U64 => dst ++ Lib.toBe 8 length
  match header.mask with
  | some mask => dst ++ mask.toList
  | none => dst

/-- `Encoder::encode`: the payload is masked in place, behind the header. -/
def encode (frame : Frame) (dst : List UInt8) : List UInt8 :=
  let dst := writeHeader frame.header frame.payload.length dst
  let len := dst.length
  let dst := dst ++ frame.payload
  match frame.header.mask with
  | some mask => dst.take len ++ applyMask (dst.drop len) mask
  | none => dst

end FrameEncoder

/-! ## What encoding appends -/

namespace FrameHeader

/-- The length field of a formatted header. -/
def lengthField (length : Nat) : List UInt8 :=
  match LengthFormat.forLength length with
  | .U8 _ => []
  | .U16 => Lib.toBe 2 length
  | .U64 => Lib.toBe 8 length

/-- The mask field of a formatted header. -/
def maskField (header : FrameHeader) : List UInt8 :=
  match header.mask with
  | some mask => mask.toList
  | none => []

/-- The bytes of a formatted header. -/
def encoded (header : FrameHeader) (length : Nat) : List UInt8 :=
  [header.firstByte, header.secondByte length] ++ (lengthField length ++ header.maskField)

end FrameHeader

/-- The payload as it stands on the wire. -/
def Frame.wirePayload (frame : Frame) : List UInt8 :=
  match frame.header.mask with
  | some mask => applyMaskFallback frame.payload mask
  | none => frame.payload

/-- The bytes of an encoded frame. -/
def Frame.encoded (frame : Frame) : List UInt8 :=
  frame.header.encoded frame.payload.length ++ frame.wirePayload

namespace FrameEncoder

theorem writeHeader_eq (header : FrameHeader) (length : Nat) (dst : List UInt8) :
    writeHeader header length dst = dst ++ header.encoded length := by
  simp only [writeHeader, FrameHeader.encoded, FrameHeader.lengthField, FrameHeader.maskField,
    FrameHeader.firstByte, FrameHeader.secondByte]
  cases LengthFormat.forLength length <;> cases header.mask <;> simp

/-- Encoding leaves the destination in place and appends the frame. -/
theorem encode_eq (frame : Frame) (dst : List UInt8) : encode frame dst = dst ++ frame.encoded := by
  rw [Frame.encoded, ← List.append_assoc, ← writeHeader_eq, Frame.wirePayload, encode]
  cases frame.header.mask with
  | some mask => simp only [List.take_left, List.drop_left, applyMask_eq_fallback]
  | none => rfl

end FrameEncoder

end MonoioTungstenite
