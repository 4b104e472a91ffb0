import MonoioTungstenite.WebSocket

/-! # Reassembly, as RFC 6455 has it

What a receiver is for, without any of its buffers: which frame may come next, what it delivers, and
which message is then pending.  `Allowed` is the grammar, `next` the effect of an allowed frame, and
`reassemble` runs both over a sequence of frames. -/

namespace MonoioTungstenite

open Lib.Utf8

/-- A message of which some frames have arrived. -/
structure Pending where
  kind : IncompleteMessageType
  payload : List UInt8
  deriving DecidableEq, Repr

/-- What a receiver goes by.  A message in one frame is bounded by `maxMessageSize`, a message in several
by `maxFragmented`; an active receiver does not take every close code. -/
structure Rules where
  role : Role
  maxMessageSize : Option Nat
  maxFragmented : Nat
  active : Bool

namespace Reassembly

/-- The type of message that a frame with this opcode begins. -/
def kindOf : Data → Option IncompleteMessageType
  | .Text => some .Text
  | .Binary => some .Binary
  | .Continue | .Reserved _ => none

/-- A message in one frame. -/
def WholeAllowed (rules : Rules) (kind : IncompleteMessageType) (payload : List UInt8) : Prop :=
  (∀ maxSize ∈ rules.maxMessageSize, payload.length ≤ maxSize) ∧ kind.MayBe payload

/-- The beginning of a message in several frames. -/
def PartAllowed (rules : Rules) (kind : IncompleteMessageType) (payload : List UInt8) : Prop :=
  payload.length ≤ rules.maxFragmented ∧ kind.MayStart payload

/-- Data frames: fragments of the pending message while there is one, first frames otherwise. -/
def DataAllowed (rules : Rules) (pending : Option Pending) (data : Data) (isFinal : Bool)
    (payload : List UInt8) : Prop :=
  match pending, data with
  | some message, .Continue =>
    PartAllowed rules message.kind (message.payload ++ payload) ∧
      (isFinal = true → message.kind.MayBe (message.payload ++ payload))
  | none, .Text => if isFinal then WholeAllowed rules .Text payload else PartAllowed rules .Text payload
  | none, .Binary => if isFinal then WholeAllowed rules .Binary payload else PartAllowed rules .Binary payload
  | _, _ => False

/-- The payload of a close frame: nothing, or a code and a reason. -/
def CloseBody (payload : List UInt8) : Prop :=
  payload = [] ∨ (2 ≤ payload.length ∧ Valid (payload.drop 2))

/-- Control frames: short, in one piece, and of a known type. -/
def ControlAllowed (control : Control) (isFinal : Bool) (payload : List UInt8) : Prop :=
  isFinal = true ∧ payload.length ≤ 125 ∧
    match control with
    | .Close => CloseBody payload
    | .Ping | .Pong => True
    | .Reserved _ => False

/-- No reserved bit is set, and no frame for a client is masked. -/
def HeaderAllowed (role : Role) (header : FrameHeader) : Prop :=
  header.rsv1 = false ∧ header.rsv2 = false ∧ header.rsv3 = false ∧ (role = .Client → header.mask = none)

/-- The frame may come next. -/
def Allowed (rules : Rules) (pending : Option Pending) (frame : Frame) : Prop :=
  HeaderAllowed rules.role frame.header ∧
    match frame.header.opcode with
    | .Control control => ControlAllowed control frame.header.isFinal frame.payload
    | .Data data => DataAllowed rules pending data frame.header.isFinal frame.payload

/-- The frame is the last one of the pending text, and the text ends inside a character. -/
def EndsCut (rules : Rules) (pending : Option Pending) (frame : Frame) : Prop :=
  HeaderAllowed rules.role frame.header ∧ frame.header.opcode = .Data .Continue ∧ frame.header.isFinal = true ∧
    ∃ message ∈ pending, PartAllowed rules message.kind (message.payload ++ frame.payload) ∧
      ¬ message.kind.MayBe (message.payload ++ frame.payload)

/-- The close frame for the user. -/
def closeOf (rules : Rules) (payload : List UInt8) : Option CloseFrame :=
  match payload with
  | high :: low :: reason =>
    let code := CloseCode.ofU16 (UInt16.ofNat (Lib.ofBe [high, low]))
    if rules.active ∧ ¬ code.isAllowed then some ⟨.Protocol, protocolViolation⟩ else some ⟨code, ⟨reason⟩⟩
  | _ => none

/-- The message pending after one more data frame. -/
def grown (pending : Option Pending) (data : Data) (payload : List UInt8) : Pending :=
  match pending with
  | some message => ⟨message.kind, message.payload ++ payload⟩
  | none => ⟨(kindOf data).getD .Binary, payload⟩

/-- What an allowed frame delivers, and the message then pending. -/
def next (rules : Rules) (pending : Option Pending) (frame : Frame) : Option Message × Option Pending :=
  match frame.header.opcode with
  | .Control .Close => (some (.Close (closeOf rules frame.payload)), pending)
  | .Control .Ping => (some (.Ping frame.payload), pending)
  | .Control .Pong => (some (.Pong frame.payload), pending)
  | .Control (.Reserved _) => (none, pending)
  | .Data data =>
    let message := grown pending data frame.payload
    if frame.header.isFinal then (some (message.kind.message message.payload), none) else (none, some message)

instance (kind : IncompleteMessageType) (payload : List UInt8) : Decidable (kind.MayStart payload) :=
  match kind with
  | .Text => inferInstanceAs (Decidable (ValidPrefix payload))
  | .Binary => inferInstanceAs (Decidable True)

instance (kind : IncompleteMessageType) (payload : List UInt8) : Decidable (kind.MayBe payload) :=
  match kind with
  | .Text => inferInstanceAs (Decidable (Valid payload))
  | .Binary => inferInstanceAs (Decidable True)

instance (role : Role) (header : FrameHeader) : Decidable (HeaderAllowed role header) :=
  inferInstanceAs (Decidable (_ ∧ _ ∧ _ ∧ (role = .Client → header.mask = none)))

instance (rules : Rules) (pending : Option Pending) (data : Data) (isFinal : Bool) (payload : List UInt8) :
    Decidable (DataAllowed rules pending data isFinal payload) :=
  match pending, data with
  | some message, .Continue =>
    inferInstanceAs (Decidable ((_ ∧ message.kind.MayStart _) ∧ (isFinal = true → message.kind.MayBe _)))
  | none, .Text =>
    inferInstanceAs (Decidable (if isFinal then _ ∧ IncompleteMessageType.Text.MayBe payload
      else _ ∧ IncompleteMessageType.Text.MayStart payload))
  | none, .Binary =>
    inferInstanceAs (Decidable (if isFinal then _ ∧ IncompleteMessageType.Binary.MayBe payload
      else _ ∧ IncompleteMessageType.Binary.MayStart payload))
  | some _, .Text | some _, .Binary | some _, .Reserved _ | none, .Continue | none, .Reserved _ =>
    inferInstanceAs (Decidable False)

instance (control : Control) (isFinal : Bool) (payload : List UInt8) :
    Decidable (ControlAllowed control isFinal payload) :=
  match control with
  | .Close => inferInstanceAs (Decidable (_ ∧ _ ∧ (payload = [] ∨ (2 ≤ payload.length ∧ Valid (payload.drop 2)))))
  | .Ping | .Pong => inferInstanceAs (Decidable (_ ∧ _ ∧ True))
  | .Reserved _ => inferInstanceAs (Decidable (_ ∧ _ ∧ False))

instance (rules : Rules) (pending : Option Pending) (frame : Frame) :
    Decidable (Allowed rules pending frame) :=
  match frame with
  | ⟨header, payload⟩ =>
    match opcode : header.opcode with
    | .Control control =>
      decidable_of_iff (HeaderAllowed rules.role header ∧ ControlAllowed control header.isFinal payload) (by
        simp only [Allowed, opcode])
    | .Data data =>
      decidable_of_iff (HeaderAllowed rules.role header ∧ DataAllowed rules pending data header.isFinal payload) (by
        simp only [Allowed, opcode])

instance (rules : Rules) (kind : IncompleteMessageType) (payload : List UInt8) :
    Decidable (PartAllowed rules kind payload) := inferInstanceAs (Decidable (_ ∧ kind.MayStart payload))

instance (rules : Rules) (pending : Option Pending) (frame : Frame) : Decidable (EndsCut rules pending frame) :=
  match pending with
  | none => isFalse fun cut => by
    obtain ⟨_, _, _, _, held, _⟩ := cut
    cases held
  | some message =>
    decidable_of_iff (HeaderAllowed rules.role frame.header ∧ frame.header.opcode = .Data .Continue ∧
        frame.header.isFinal = true ∧ PartAllowed rules message.kind (message.payload ++ frame.payload) ∧
        ¬ message.kind.MayBe (message.payload ++ frame.payload)) (by
      simp [EndsCut])

/-- How a sequence of frames ends for its receiver: it has come to a close frame or to a frame that is
not allowed, with these frames behind it, or it waits for more. -/
inductive Ending where
  | closed (rest : List Frame)
  | refused (rest : List Frame)
  | waiting
  deriving DecidableEq, Repr

/-- The messages a sequence of frames delivers, up to and including the first close frame, or up to the
first frame that is not allowed. -/
def reassemble (rules : Rules) : Option Pending → List Frame → List Message × Ending
  | _, [] => ([], .waiting)
  | pending, frame :: frames =>
    if Allowed rules pending frame then
      match next rules pending frame with
      | (some (.Close code), _) => ([.Close code], .closed frames)
      | (some message, pending) =>
        let (messages, ending) := reassemble rules pending frames
        (message :: messages, ending)
      | (none, pending) => reassemble rules pending frames
    else ([], .refused frames)

end Reassembly

end MonoioTungstenite
