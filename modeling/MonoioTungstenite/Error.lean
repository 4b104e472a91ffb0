import Mathlib.Algebra.Group.Nat.Defs
import MonoioTungstenite.Coding
import MonoioTungstenite.Lib.Outcome

/-! # Errors and the target

The errors of `error.rs` that the protocol layer produces, the places where it can panic, and the
result type built from them.  Texts are kept as the data they are made of.

What depends on the machine is in `Target`: the width of `usize`, and the size up to which a buffer can
grow. -/

namespace MonoioTungstenite

/-- `std::io::ErrorKind`, of which the code tells `ConnectionReset` from the rest. -/
inductive ErrorKind where
  | ConnectionReset
  | ConnectionAborted
  | BrokenPipe
  | WouldBlock
  | Interrupted
  | UnexpectedEof
  | WriteZero
  | Other
  deriving DecidableEq, Repr

/-- `std::io::Error` -/
structure IoError where
  kind : ErrorKind
  deriving DecidableEq, Repr

inductive CapacityError where
  | TooManyHeaders
  | MessageTooLong (size maxSize : Nat)
  deriving DecidableEq, Repr

inductive ProtocolError where
  | SendAfterClosing
  | ReceivedAfterClosing
  | NonZeroReservedBits
  | UnmaskedFrameFromClient
  | MaskedFrameFromServer
  | FragmentedControlFrame
  | ControlFrameTooBig
  | UnknownControlFrameType (code : UInt8)
  | UnknownDataFrameType (code : UInt8)
  | UnexpectedContinueFrame
  | ExpectedFragment (data : Data)
  | ResetWithoutClosingHandshake
  | InvalidOpcode (code : UInt8)
  | InvalidCloseSequence
  deriving DecidableEq, Repr

/-- The text of `Error::Utf8`: the lossy rendering of some bytes, the `Debug` rendering of an
`Incomplete`, or the fixed text of `simdutf8::basic::Utf8Error`. -/
inductive Utf8Text where
  | lossy (bytes : List UInt8)
  | incompleteString (buffer : List UInt8) (bufferLen : Nat)
  | basic
  deriving DecidableEq, Repr

inductive Error where
  | ConnectionClosed
  | AlreadyClosed
  | Io (error : IoError)
  | Capacity (error : CapacityError)
  | Protocol (error : ProtocolError)
  | Utf8 (text : Utf8Text)
  deriving DecidableEq, Repr

/-- The places where the modelled code panics, and the unchecked conversions to `str`, which are
undefined behaviour on bytes that are not UTF-8. -/
inductive Panic where
  | opcodeOutOfRange
  | lengthExceedsU64
  | capacityOverflow
  | advancePastEnd
  | pendingHeaderUnwrap
  | incompleteUnwrap
  | messageNotTextNorBinary
  | closeWhenTerminated
  | sliceIndex
  | checkedSubUnwrap
  | uncheckedStr
  deriving DecidableEq, Repr

abbrev Result (α : Type) := Lib.Outcome Error Panic α

/-- The two widths of `usize` the code is built for. -/
inductive PointerWidth where
  | w32
  | w64
  deriving DecidableEq, Repr

def PointerWidth.bits : PointerWidth → Nat
  | .w32 => 32
  | .w64 => 64

/-- The machine: `capacity = none` says that allocation always succeeds. -/
structure Target where
  width : PointerWidth
  capacity : Option Nat
  deriving DecidableEq, Repr

namespace Target

/-- A machine on which allocation always succeeds. -/
def unlimited (width : PointerWidth) : Target := ⟨width, none⟩

/-- `usize::MAX` -/
def usizeMax (target : Target) : Nat := 2 ^ target.width.bits - 1

/-- `as usize` -/
def asUsize (target : Target) (value : Nat) : Nat := value % 2 ^ target.width.bits

theorem asUsize_of_le {target : Target} {value : Nat} (fits : value ≤ target.usizeMax) :
    target.asUsize value = value := by
  have positive : 0 < 2 ^ target.width.bits := Nat.two_pow_pos _
  apply Nat.mod_eq_of_lt
  rw [usizeMax] at fits
  omega

/-- `BytesMut::reserve` panics: the buffer cannot grow by that much. -/
def reserveFails (target : Target) (length additional : Nat) : Bool :=
  target.capacity.any (· < length + additional)

@[simp] theorem unlimited_reserveFails (width : PointerWidth) (length additional : Nat) :
    (unlimited width).reserveFails length additional = false := rfl

end Target

end MonoioTungstenite
