import Mathlib.Tactic.Common

/-! # Codes of RFC 6455

The opcodes and close codes of `protocol/frame/coding.rs`, with their conversions to and from the
integers on the wire. -/

namespace MonoioTungstenite

/-- Data opcodes. -/
inductive Data where
  | Continue
  | Text
  | Binary
  | Reserved (code : UInt8)
  deriving DecidableEq, Repr

/-- Control opcodes. -/
inductive Control where
  | Close
  | Ping
  | Pong
  | Reserved (code : UInt8)
  deriving DecidableEq, Repr

/-- WebSocket message opcode. -/
inductive OpCode where
  | Data (data : Data)
  | Control (control : Control)
  deriving DecidableEq, Repr

/-- `impl From<OpCode> for u8` -/
def OpCode.toU8 : OpCode → UInt8
  | .Data .Continue => 0
  | .Data .Text => 1
  | .Data .Binary => 2
  | .Data (.Reserved i) => i
  | .Control .Close => 8
  | .Control .Ping => 9
  | .Control .Pong => 10
  | .Control (.Reserved i) => i

/-- `impl From<u8> for OpCode`; `none` is the arm that panics. -/
def OpCode.ofU8 (byte : UInt8) : Option OpCode :=
  if byte = 0 then some (.Data .Continue)
  else if byte = 1 then some (.Data .Text)
  else if byte = 2 then some (.Data .Binary)
  else if byte ≤ 7 then some (.Data (.Reserved byte))
  else if byte = 8 then some (.Control .Close)
  else if byte = 9 then some (.Control .Ping)
  else if byte = 10 then some (.Control .Pong)
  else if byte ≤ 15 then some (.Control (.Reserved byte))
  else none

/-- The opcodes without a reserved code. -/
def OpCode.isReserved : OpCode → Bool
  | .Data (.Reserved _) | .Control (.Reserved _) => true
  | _ => false

/-- The low half of a byte is always in the range of opcodes. -/
theorem OpCode.ofU8_low_isSome (byte : UInt8) : (OpCode.ofU8 (byte &&& 0x0F)).isSome = true := by
  have low : (byte &&& 0x0F) ≤ 15 := by
    rw [UInt8.le_iff_toNat_le, UInt8.toNat_and]
    exact Nat.and_le_right
  unfold OpCode.ofU8
  split_ifs <;> rfl

theorem OpCode.ofU8_toU8 {opcode : OpCode} (known : opcode.isReserved = false) :
    OpCode.ofU8 opcode.toU8 = some opcode := by
  cases opcode with
  | Data data => cases data <;> first | rfl | cases known
  | Control control => cases control <;> first | rfl | cases known

/-- Status code of a close frame. -/
inductive CloseCode where
  | Normal
  | Away
  | Protocol
  | Unsupported
  | Status
  | Abnormal
  | Invalid
  | Policy
  | Size
  | Extension
  | Error
  | Restart
  | Again
  | Tls
  | Reserved (code : UInt16)
  | Iana (code : UInt16)
  | Library (code : UInt16)
  | Bad (code : UInt16)
  deriving DecidableEq, Repr

def CloseCode.isAllowed : CloseCode → Bool
  | .Bad _ | .Reserved _ | .Status | .Abnormal | .Tls => false
  | _ => true

/-- `impl From<CloseCode> for u16` -/
def CloseCode.toU16 : CloseCode → UInt16
  | .Normal => 1000
  | .Away => 1001
  | .Protocol => 1002
  | .Unsupported => 1003
  | .Status => 1005
  | .Abnormal => 1006
  | .Invalid => 1007
  | .Policy => 1008
  | .Size => 1009
  | .Extension => 1010
  | .Error => 1011
  | .Restart => 1012
  | .Again => 1013
  | .Tls => 1015
  | .Reserved code | .Iana code | .Library code | .Bad code => code

/-- `impl From<u16> for CloseCode` -/
def CloseCode.ofU16 (code : UInt16) : CloseCode :=
  if code = 1000 then .Normal
  else if code = 1001 then .Away
  else if code = 1002 then .Protocol
  else if code = 1003 then .Unsupported
  else if code = 1005 then .Status
  else if code = 1006 then .Abnormal
  else if code = 1007 then .Invalid
  else if code = 1008 then .Policy
  else if code = 1009 then .Size
  else if code = 1010 then .Extension
  else if code = 1011 then .Error
  else if code = 1012 then .Restart
  else if code = 1013 then .Again
  else if code = 1015 then .Tls
  else if 1 ≤ code ∧ code ≤ 999 then .Bad code
  else if 1016 ≤ code ∧ code ≤ 2999 then .Reserved code
  else if 3000 ≤ code ∧ code ≤ 3999 then .Iana code
  else if 4000 ≤ code ∧ code ≤ 4999 then .Library code
  else .Bad code

theorem CloseCode.apply_ite_eq_of {chosen other : CloseCode} {condition : Prop} [Decidable condition]
    {code : UInt16} (yes : condition → chosen.toU16 = code) (no : ¬ condition → other.toU16 = code) :
    (if condition then chosen else other).toU16 = code := by
  split
  · exact yes ‹_›
  · exact no ‹_›

/-- A close code keeps its number. -/
theorem CloseCode.toU16_ofU16 (code : UInt16) : (CloseCode.ofU16 code).toU16 = code := by
  unfold CloseCode.ofU16
  iterate 14 refine CloseCode.apply_ite_eq_of (fun same => same.symm) fun _ => ?_
  repeat' split
  all_goals rfl

end MonoioTungstenite
