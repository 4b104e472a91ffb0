import MonoioTungstenite.Handover
import MonoioTungstenite.Replies

/-! # A client and a server, joined

Two sockets that take turns in any order.  What an end takes off its stream is a beginning of what the other end
has put on its own, cut in any way.  A turn is an operation that has returned: a read that waits takes its turn when it
has got what it waits for.  Whatever an end queues is of the kind that the other end takes (`Sends`), and a close frame
comes last in it. -/

namespace MonoioTungstenite

open Lib.Utf8 Reassembly WebSocket

/-- The other end. -/
def Role.other : Role → Role
  | .Server => .Client
  | .Client => .Server

/-- Both ends of a connection. -/
abbrev Network := Role → WebSocket

/-! ## What the ends are asked -/

/-- An end takes data of this size, in one frame and as one message. -/
def TakesData (width : PointerWidth) (config : WebSocketConfig) (length : Nat) : Prop :=
  Takes (.unlimited width) config.maxFrameSize length ∧ ∀ maxSize ∈ config.maxMessageSize, length ≤ maxSize

/-- A close frame that fits into a control frame; its reason is a string. -/
def SuitsClose (code : Option CloseFrame) : Prop :=
  ∀ frame ∈ code, frame.reason.bytes.length ≤ 123 ∧ Valid frame.reason.bytes

/-- A message that may be written to an end with this configuration; a text is a string. -/
def Suits (width : PointerWidth) (config : WebSocketConfig) : Message → Prop
  | .Text data => Valid data.bytes ∧ TakesData width config data.bytes.length
  | .Binary data => TakesData width config data.length
  | .Ping data | .Pong data => data.length ≤ 125
  | .Close code => SuitsClose code
  | .Frame _ => False

/-- An operation that the user may ask for, with such an end on the other side. -/
def SuitsOp (width : PointerWidth) (config : WebSocketConfig) : Op → Prop
  | .read | .flush => True
  | .write message => Suits width config message
  | .close code => SuitsClose code
  | .setConfig _ => False

namespace Network

/-- Two new sockets. -/
def joined (configs : Role → Option WebSocketConfig) : Network := fun role => fromRawSocket .new role (configs role)

/-- It is the turn of an end: it performs an operation. -/
def step (width : Role → PointerWidth) (network : Network) (turn : Role × Call) : Reply × Network :=
  let (reply, socket) := WebSocket.step (.unlimited (width turn.1)) (network turn.1) turn.2
  (reply, Function.update network turn.1 socket)

/-- An operation that returns, without failures of the streams: the user asks for what the other end takes, the streams
do what they are asked, and what is received is a beginning of what the other end has sent.  The end of the stream is
seen only when the other end has terminated, and when everything it has sent has been received and gone through the
decoder. -/
structure Fair (width : Role → PointerWidth) (network : Network) (turn : Role × Call) : Prop where
  asked : SuitsOp (width turn.1.other) (network turn.1.other).config turn.2.op
  calm : turn.2.Calm
  returns : (step width network turn).1 ≠ .pending
  fromWire : FromWire turn.2.reader
  unfailing : Unfailing turn.2.reader
  pipe : ((step width network turn).2 turn.1).frameCodec.inner.received <+:
    (network turn.1.other).frameCodec.io.accepted
  eof : .eof ∈ turn.2.reader → (network turn.1.other).state = .Terminated ∧
    ((step width network turn).2 turn.1).frameCodec.inner.received = (network turn.1.other).frameCodec.io.accepted ∧
    ((step width network turn).2 turn.1).frameCodec.inner.Drained (width turn.1)

/-- A turn is fair when its reads bring bytes and nothing else. -/
theorem Fair.of_bytes {width : Role → PointerWidth} {network : Network} {turn : Role × Call}
    (asked : SuitsOp (width turn.1.other) (network turn.1.other).config turn.2.op) (calm : turn.2.Calm)
    (returns : (step width network turn).1 ≠ .pending) (bytes : turn.2.reader.all ReadAction.isBytes = true)
    (pipe : ((step width network turn).2 turn.1).frameCodec.inner.received <+:
      (network turn.1.other).frameCodec.io.accepted) : Fair width network turn := by
  have brings : ∀ action ∈ turn.2.reader, action.isBytes = true := List.all_eq_true.mp bytes
  constructor
  case asked => exact asked
  case calm => exact calm
  case returns => exact returns
  case pipe => exact pipe
  case fromWire => exact fun frame found => absurd (brings _ found) Bool.false_ne_true
  case unfailing => exact fun error found => absurd (brings _ found) Bool.false_ne_true
  case eof => exact fun found => absurd (brings _ found) Bool.false_ne_true

end Network

/-- The messages that are not passed on for the sake of the connection. -/
def Message.isContent : Message → Bool
  | .Text _ | .Binary _ | .Ping _ => true
  | .Pong _ | .Close _ | .Frame _ => false

/-- The text, data or ping that an operation has returned. -/
def returnedBy : Reply → Option Message
  | .ok message => message.filter Message.isContent
  | _ => none

/-- The text, data or ping of which the `write` has returned `Ok`. -/
def writtenBy : Op → Reply → Option Message
  | .write message, .ok _ => (some message).filter Message.isContent
  | _, _ => none

/-- The texts, data and pings that the reads of an end have returned. -/
def Network.returned (role : Role) (trace : List ((Role × Call) × Reply)) : List Message :=
  trace.filterMap fun (turn, reply) => if turn.1 = role then returnedBy reply else none

/-- The texts, data and pings of which the `write` at an end has returned `Ok`. -/
def Network.written (role : Role) (trace : List ((Role × Call) × Reply)) : List Message :=
  trace.filterMap fun (turn, reply) => if turn.1 = role then writtenBy turn.2.op reply else none

/-! ## Frames for the other end -/

/-- The text, data or ping in a frame. -/
def Frame.content (frame : Frame) : Option Message :=
  match frame.header.opcode with
  | .Data .Text => some (.Text ⟨frame.payload⟩)
  | .Data .Binary => some (.Binary frame.payload)
  | .Control .Ping => some (.Ping frame.payload)
  | _ => none

/-- A frame that an end may queue, with the other end like this: it is masked as it should be, and is a whole
message that the other end allows. -/
structure Sendable (width : PointerWidth) (config : WebSocketConfig) (role : Role) (frame : Frame) : Prop where
  masked : frame.isMasked = decide (role = .Client)
  isFinal : frame.header.isFinal = true
  takes : Takes (.unlimited width) config.maxFrameSize frame.payload.length
  allowed : ∀ rules : Rules, rules.role = role.other → rules.maxMessageSize = config.maxMessageSize →
    Allowed rules none frame.unmasked

/-- A frame that is sent as it is made, but for its mask. -/
theorem sendable_outgoing {width : PointerWidth} {config : WebSocketConfig} {socket : WebSocket} {frame : Frame}
    (unmasked : frame.header.mask = none) (isFinal : frame.header.isFinal = true)
    (takes : Takes (.unlimited width) config.maxFrameSize frame.payload.length)
    (allowed : ∀ rules : Rules, rules.maxMessageSize = config.maxMessageSize → Allowed rules none frame) :
    Sendable width config socket.role (outgoing frame socket) := by
  constructor
  case masked =>
    rw [outgoing]
    cases socket.role with
    | Client => rfl
    | Server => simp [Frame.isMasked, unmasked]
  case isFinal =>
    rw [outgoing]
    cases socket.role <;> exact isFinal
  case takes =>
    rw [outgoing]
    cases socket.role <;> exact takes
  case allowed =>
    intro rules _ maxMessageSize
    rw [unmasked_outgoing unmasked]
    exact allowed rules maxMessageSize

@[simp] theorem content_outgoing (frame : Frame) (socket : WebSocket) :
    (outgoing frame socket).content = frame.content := by
  rw [outgoing]
  cases socket.role <;> rfl

/-- Every end takes control frames. -/
def Roomy (config : WebSocketConfig) : Prop := ∀ maxSize ∈ config.maxFrameSize, 125 ≤ maxSize

instance (config : WebSocketConfig) : Decidable (Roomy config) :=
  inferInstanceAs (Decidable (∀ maxSize ∈ config.maxFrameSize, 125 ≤ maxSize))

theorem Roomy.takes {config : WebSocketConfig} (roomy : Roomy config) (width : PointerWidth) {length : Nat}
    (small : length ≤ 125) : Takes (.unlimited width) config.maxFrameSize length := by
  constructor
  · have widest : 125 ≤ (Target.unlimited width).usizeMax := by cases width <;> decide
    omega
  · intro maxSize limit
    exact Nat.le_trans small (roomy maxSize limit)

/-- A control frame without a mask, and with a payload that every end allows. -/
theorem sendable_control {width : PointerWidth} {config : WebSocketConfig} (roomy : Roomy config)
    {socket : WebSocket} {control : Control} {payload : List UInt8} (allowed : ControlAllowed control true payload) :
    Sendable width config socket.role (outgoing (automatic control payload) socket) :=
  sendable_outgoing rfl rfl (roomy.takes width allowed.2.1) fun _ _ => ⟨⟨rfl, rfl, rfl, fun _ => rfl⟩, allowed⟩

theorem close_eq_automatic (code : Option CloseFrame) : ∃ payload, Frame.close code = automatic .Close payload ∧
    (SuitsClose code → ControlAllowed .Close true payload) := by
  cases code with
  | none => exact ⟨[], rfl, fun _ => ⟨rfl, by decide, .inl rfl⟩⟩
  | some frame =>
    refine ⟨_, rfl, fun suits => ?_⟩
    obtain ⟨short, valid⟩ := suits frame rfl
    refine ⟨rfl, ?_, .inr ⟨?_, ?_⟩⟩
    · rw [List.length_append, Lib.length_toBe]
      omega
    · rw [List.length_append, Lib.length_toBe]
      omega
    · rw [List.drop_left' (Lib.length_toBe 2 _)]
      exact valid

section Unmasked

variable (frame : Frame)

@[simp] theorem unmasked_payload : frame.unmasked.payload = frame.payload := by
  unfold Frame.unmasked
  cases frame.header.mask <;> rfl

@[simp] theorem unmasked_opcode : frame.unmasked.header.opcode = frame.header.opcode := by
  unfold Frame.unmasked
  cases frame.header.mask <;> rfl

@[simp] theorem unmasked_isFinal : frame.unmasked.header.isFinal = frame.header.isFinal := by
  unfold Frame.unmasked
  cases frame.header.mask <;> rfl

end Unmasked

theorem closes_iff {frame : Frame} (known : frame.header.opcode.isReserved = false) :
    frame.closes = true ↔ frame.header.opcode = .Control .Close := by
  unfold Frame.closes
  generalize frame.header.opcode = opcode at known ⊢
  cases opcode with
  | Data data =>
    cases data with
    | Reserved code => cases known
    | Continue | Text | Binary => decide
  | Control control =>
    cases control with
    | Reserved code => cases known
    | Close | Ping | Pong => decide

theorem Sendable.known {width : PointerWidth} {config : WebSocketConfig} {role : Role} {frame : Frame}
    (sendable : Sendable width config role frame) : frame.header.opcode.isReserved = false := by
  have allowed := (sendable.allowed ⟨role.other, config.maxMessageSize, 0, true⟩ rfl rfl).2
  rw [unmasked_opcode] at allowed
  cases opcode : frame.header.opcode with
  | Data data =>
    rw [opcode] at allowed
    cases data with
    | Text | Binary => rfl
    | Continue | Reserved code => exact absurd allowed not_false
  | Control control =>
    rw [opcode] at allowed
    cases control with
    | Close | Ping | Pong => rfl
    | Reserved code => exact absurd allowed.2.2 not_false

/-- What the other end makes of such a frame: it is a message of its own, and a close frame is one for both. -/
theorem Sendable.delivers {width : PointerWidth} {config : WebSocketConfig} {role : Role} {frame : Frame}
    (sendable : Sendable width config role frame) {rules : Rules} (same : rules.role = role.other)
    (maxMessageSize : rules.maxMessageSize = config.maxMessageSize) :
    ∃ message, next rules none frame.unmasked = (some message, none) ∧
      (some message).filter Message.isContent = frame.content ∧
      ((∃ code, message = .Close code) ↔ frame.closes = true) := by
  have allowed := (sendable.allowed rules same maxMessageSize).2
  rw [closes_iff sendable.known, Frame.content, next]
  simp only [unmasked_opcode, unmasked_isFinal, unmasked_payload, sendable.isFinal] at allowed ⊢
  cases opcode : frame.header.opcode with
  | Data data =>
    rw [opcode] at allowed
    cases data with
    | Text => exact ⟨.Text ⟨frame.payload⟩, rfl, rfl, by simp⟩
    | Binary => exact ⟨.Binary frame.payload, rfl, rfl, by simp⟩
    | Continue | Reserved code => exact absurd allowed not_false
  | Control control =>
    rw [opcode] at allowed
    cases control with
    | Ping => exact ⟨.Ping frame.payload, rfl, rfl, by simp⟩
    | Pong => exact ⟨.Pong frame.payload, rfl, rfl, by simp⟩
    | Close => exact ⟨.Close (closeOf rules frame.payload), rfl, rfl, by simp⟩
    | Reserved code => exact absurd allowed.2.2 not_false

/-! ## What an end sends -/

/-- What has come out of a codec when these frames have been queued. -/
structure SentOut (frames : List Frame) (before after : FrameCodec) : Prop where
  queued : after.queued = before.queued ++ frames
  wire : after.io.accepted ++ after.writeBuf = before.io.accepted ++ before.writeBuf ++ encodeAll frames
  grown : before.io.accepted <+: after.io.accepted

theorem WebSocket.Performs.sentOut {uses : List FrameCodec.Use} {before after : FrameCodec}
    (performs : Performs uses before after) (calm : before.io.Calm) : SentOut (FrameCodec.sends uses) before after := by
  obtain ⟨inner, writeLimit, rfl⟩ := performs
  have calmly := FrameCodec.useAll_calm calm uses
  exact ⟨calmly.queued, calmly.wire, calmly.grown⟩

theorem WebSocket.Performs.flushed {uses : List FrameCodec.Use} {before after : FrameCodec}
    {last : FrameCodec.Use} (performs : Performs (uses ++ [last]) before after) (calm : before.io.Calm)
    (flushing : last = .flush ∨ last = .close) : after.writeBuf = [] := by
  obtain ⟨inner, writeLimit, rfl⟩ := performs
  exact FrameCodec.useAll_calm_flushed calm uses flushing

/-- What an end has sent to another one with this configuration: nothing but frames for it, the last of which is a
close frame if the end is no longer active; then all of them are out. -/
structure Sends (width : PointerWidth) (config : WebSocketConfig) (socket : WebSocket) : Prop where
  wire : socket.frameCodec.io.accepted ++ socket.frameCodec.writeBuf = encodeAll socket.frameCodec.queued
  out : socket.state ≠ .Active → socket.frameCodec.writeBuf = []
  queue : QueueClosed socket
  closing : socket.state ≠ .Active → ∃ frame ∈ socket.frameCodec.queued, frame.closes = true
  sendable : ∀ frame ∈ socket.frameCodec.queued, Sendable width config socket.role frame

/-- The frames that a turn may queue: none, one that leaves the end active, or a close frame that goes out. -/
inductive Queues (width : PointerWidth) (config : WebSocketConfig) (before after : WebSocket) : List Frame → Prop
  | nothing (same : after.state = .Active ↔ before.state = .Active) : Queues width config before after []
  | goesOn {frame : Frame} (sendable : Sendable width config before.role frame) (opens : frame.closes = false)
    (active : before.state = .Active) (stays : after.state = .Active) : Queues width config before after [frame]
  | closes {frame : Frame} (sendable : Sendable width config before.role frame) (closes : frame.closes = true)
    (active : before.state = .Active) (inactive : after.state ≠ .Active) (out : after.frameCodec.writeBuf = []) :
    Queues width config before after [frame]

theorem Sends.accepted_prefix {width : PointerWidth} {config : WebSocketConfig} {socket : WebSocket}
    (sends : Sends width config socket) : socket.frameCodec.io.accepted <+: encodeAll socket.frameCodec.queued :=
  ⟨_, sends.wire⟩

/-- An end that is no longer active has sent everything. -/
theorem Sends.all_out {width : PointerWidth} {config : WebSocketConfig} {socket : WebSocket}
    (sends : Sends width config socket) (inactive : socket.state ≠ .Active) :
    socket.frameCodec.io.accepted = encodeAll socket.frameCodec.queued := by
  rw [← sends.wire, sends.out inactive, List.append_nil]

/-- Nothing is queued behind a close frame. -/
theorem Sends.nothing_behind {width : PointerWidth} {config : WebSocketConfig} {socket : WebSocket}
    (sends : Sends width config socket) {first later : List Frame} (queued : socket.frameCodec.queued = first ++ later)
    (closed : ∃ frame ∈ first, frame.closes = true) : later = [] := by
  obtain ⟨frame, found, closes⟩ := closed
  obtain ⟨before, after, rfl⟩ := List.append_of_mem found
  have nothing := sends.queue.last before frame (after ++ later) (by rw [queued]; simp) closes
  exact (List.append_eq_nil_iff.mp nothing).2

theorem Sends.step {width : PointerWidth} {config : WebSocketConfig} {before after : WebSocket} {frames : List Frame}
    (sends : Sends width config before) (sent : SentOut frames before.frameCodec after.frameCodec)
    (queues : Queues width config before after frames) (role : after.role = before.role) :
    Sends width config after := by
  have wire : after.frameCodec.io.accepted ++ after.frameCodec.writeBuf = encodeAll after.frameCodec.queued := by
    rw [sent.wire, sends.wire, sent.queued, encodeAll_append]
  cases queues with
  | nothing same =>
    have queued := sent.queued.trans (List.append_nil _)
    constructor
    case wire => exact wire
    case out =>
      -- what was out stays out
      intro inactive
      have out := sends.out (mt same.mpr inactive)
      obtain ⟨more, grown⟩ := sent.grown
      have still := sent.wire
      rw [out, encodeAll_nil, List.append_nil, List.append_nil, ← grown, List.append_assoc,
        List.append_right_eq_self] at still
      exact (List.append_eq_nil_iff.mp still).2
    case queue =>
      constructor
      · rw [queued]
        exact sends.queue.last
      · intro active
        rw [queued]
        exact sends.queue.active (same.mp active)
    case closing =>
      intro inactive
      rw [queued]
      exact sends.closing (mt same.mpr inactive)
    case sendable =>
      rw [queued, role]
      exact sends.sendable
  | @goesOn frame sendable opens active stays =>
    constructor
    case wire => exact wire
    case out => exact fun inactive => absurd stays inactive
    case queue => exact sends.queue.grown active sent.queued fun _ => opens
    case closing => exact fun inactive => absurd stays inactive
    case sendable =>
      rw [sent.queued, role, List.forall_mem_append]
      exact ⟨sends.sendable, fun other found => List.mem_singleton.mp found ▸ sendable⟩
  | @closes frame sendable closes active inactive out =>
    constructor
    case wire => exact wire
    case out => exact fun _ => out
    case queue => exact sends.queue.grown active sent.queued fun stays => absurd stays inactive
    case closing =>
      intro _
      rw [sent.queued]
      exact ⟨frame, List.mem_append_right _ (List.mem_singleton_self frame), closes⟩
    case sendable =>
      rw [sent.queued, role, List.forall_mem_append]
      exact ⟨sends.sendable, fun other found => List.mem_singleton.mp found ▸ sendable⟩

/-! ## The turns that only write -/

theorem sendable_frameOf {width : PointerWidth} {config : WebSocketConfig} (roomy : Roomy config) {message : Message}
    {frame : Frame} {socket : WebSocket} (suits : Suits width config message) (made : frameOf message = some frame) :
    Sendable width config socket.role (outgoing frame socket) ∧ frame.closes = false ∧
      frame.content = (some message).filter Message.isContent := by
  have whole : ∀ {kind : IncompleteMessageType} {payload : List UInt8} {rules : Rules},
      rules.maxMessageSize = config.maxMessageSize → TakesData width config payload.length → kind.MayBe payload →
      WholeAllowed rules kind payload := by
    intro kind payload rules maxMessageSize takes mayBe
    refine ⟨?_, mayBe⟩
    rw [maxMessageSize]
    exact takes.2
  cases message with
  | Text data =>
    cases made
    refine ⟨?_, by rw [Frame.closes_of_opcode (show _ = OpCode.Data .Text from rfl)]; decide, rfl⟩
    exact sendable_outgoing rfl rfl suits.2.1 fun rules same => ⟨⟨rfl, rfl, rfl, fun _ => rfl⟩, whole same suits.2 suits.1⟩
  | Binary data =>
    cases made
    refine ⟨?_, by rw [Frame.closes_of_opcode (show _ = OpCode.Data .Binary from rfl)]; decide, rfl⟩
    exact sendable_outgoing rfl rfl suits.1 fun rules same => ⟨⟨rfl, rfl, rfl, fun _ => rfl⟩, whole same suits trivial⟩
  | Ping data =>
    cases made
    refine ⟨?_, by rw [Frame.closes_of_opcode (show _ = OpCode.Control .Ping from rfl)]; decide, rfl⟩
    exact @sendable_control _ _ roomy _ .Ping _ ⟨rfl, suits, trivial⟩
  | Pong data =>
    cases made
    refine ⟨?_, by rw [Frame.closes_of_opcode (show _ = OpCode.Control .Pong from rfl)]; decide, rfl⟩
    exact @sendable_control _ _ roomy _ .Pong _ ⟨rfl, suits, trivial⟩
  | Close code => cases made
  | Frame raw => exact absurd suits not_false

theorem sendable_close {width : PointerWidth} {config : WebSocketConfig} (roomy : Roomy config)
    {code : Option CloseFrame} (suits : SuitsClose code) (socket : WebSocket) :
    Sendable width config socket.role (outgoing (Frame.close code) socket) ∧
      (Frame.close code).closes = true ∧ (Frame.close code).content = none := by
  obtain ⟨payload, same, allowed⟩ := close_eq_automatic code
  rw [same]
  refine ⟨sendable_control roomy (allowed suits), ?_, rfl⟩
  rw [Frame.closes_of_opcode (show _ = OpCode.Control .Close from rfl)]
  decide

theorem suits_closeAsked {width : PointerWidth} {config : WebSocketConfig} {op : Op} {code : Option CloseFrame}
    (suits : SuitsOp width config op) (asked : closeAsked op = some code) : SuitsClose code := by
  cases op with
  | close other =>
    cases asked
    exact suits
  | write message =>
    cases message with
    | Close other =>
      cases asked
      exact suits
    | _ => cases asked
  | _ => cases asked

theorem writtenBy_flushing {op : Op} (flushing : op = .flush ∨ (closeAsked op).isSome = true) (reply : Reply) :
    writtenBy op reply = none := by
  cases op with
  | write message =>
    cases flushing with
    | inl same => cases same
    | inr asked =>
      cases message with
      | Close code => cases reply <;> rfl
      | _ => cases asked
  | _ => rfl

/-- What a `write` returns: on an active socket its frame is queued, and on any other it fails. -/
theorem step_write_reply (target : Target) {socket : WebSocket} {call : Call} (calm : call.Calm) {message : Message}
    (op : call.op = .write message) :
    (socket.state = .Active → (frameOf message).isSome = true → (WebSocket.step target socket call).1 = .ok none) ∧
      (socket.state ≠ .Active → ∃ error, (WebSocket.step target socket call).1 = .err error) := by
  rw [WebSocket.step, op]
  show (_ → _ → (asUnitReply (write message (install call socket))).1 = _) ∧
    (_ → ∃ error, (asUnitReply (write message (install call socket))).1 = .err error)
  constructor
  · intro active made
    obtain ⟨frame, made⟩ := Option.isSome_iff_exists.mp made
    have run : write message (install call socket) = writeFrame frame (install call socket) := write_of_frame active made
    have returned := (writeFrame_ran frame (install call socket)).returned.mpr
      (FrameCodec.useAll_calm (calm.installed socket) _).returned
    rw [run, asUnitReply, Prod.map_fst, returned]
    rfl
  · intro inactive
    obtain ⟨error, run⟩ : ∃ error, write message (install call socket) = (.err error, install call socket) :=
      write_refused inactive
    rw [run]
    exact ⟨error, rfl⟩

/-- What a turn that only writes does, with the other end like this. -/
theorem step_writes {width : PointerWidth} {config : WebSocketConfig} (roomy : Roomy config) (target : Target)
    {socket : WebSocket} (wellFormed : socket.WellFormed) {call : Call} (calm : call.Calm)
    (suits : SuitsOp width config call.op) (notRead : call.op ≠ .read) :
    (∃ frames, SentOut frames socket.frameCodec (WebSocket.step target socket call).2.frameCodec ∧
      Queues width config socket (WebSocket.step target socket call).2 frames ∧
      (writtenBy call.op (WebSocket.step target socket call).1).toList = frames.filterMap Frame.content) ∧
    ((WebSocket.step target socket call).2.state = socket.state ∨
      (socket.state = .Active ∧ (WebSocket.step target socket call).2.state = .ClosedByUs) ∨
      (WebSocket.step target socket call).2.state = .Terminated) := by
  obtain ⟨uses, drives, performs⟩ := step_drives target wellFormed call
  have sent : SentOut (FrameCodec.sends uses) socket.frameCodec (WebSocket.step target socket call).2.frameCodec := by
    obtain ⟨queued, wire, grown⟩ := performs.sentOut (calm.installed socket)
    exact ⟨queued, wire, grown⟩
  -- what was done to the codec says what has been queued
  generalize state : (WebSocket.step target socket call).2.state = after at drives ⊢
  generalize operation : call.op = op at drives suits notRead ⊢
  cases drives with
  | configures => exact absurd suits not_false
  | reads => exact absurd rfl notRead
  | answersPing => exact absurd rfl notRead
  | answersClose => exact absurd rfl notRead
  | refuses message inactive =>
    obtain ⟨error, failed⟩ := (@step_write_reply target socket call calm message operation).2 inactive
    refine ⟨⟨[], sent, .nothing (by rw [state]; exact Iff.rfl), ?_⟩, .inl rfl⟩
    rw [failed]
    rfl
  | @writes message frame active made =>
    obtain ⟨sendable, opens, content⟩ := @sendable_frameOf width config roomy message frame (install call socket) suits made
    have returned := (@step_write_reply target socket call calm message operation).1 active (by rw [made]; rfl)
    refine ⟨⟨_, sent, .goesOn sendable (by rw [outgoing_closes]; exact opens) active state, ?_⟩, .inl active.symm⟩
    have single : [outgoing frame (install call socket)].filterMap Frame.content = frame.content.toList := by
      rw [List.filterMap_cons, content_outgoing]
      cases frame.content <;> rfl
    rw [returned, writtenBy, ← content]
    exact single.symm
  | @closes _ code active asked =>
    obtain ⟨sendable, closes, content⟩ := @sendable_close width config roomy code (suits_closeAsked suits asked)
      (install call socket)
    have out := @WebSocket.Performs.flushed [_] _ _ _ performs (calm.installed socket) (.inl rfl)
    refine ⟨⟨_, sent, .closes sendable (by rw [outgoing_closes]; exact closes) active (by rw [state]; simp) out, ?_⟩,
      .inr (.inl ⟨active, rfl⟩)⟩
    rw [writtenBy_flushing (.inr (by rw [asked]; rfl))]
    simp [FrameCodec.sends, content]
  | flushes flushing =>
    refine ⟨⟨[], sent, .nothing (by rw [state]; exact Iff.rfl), ?_⟩, .inl rfl⟩
    rw [writtenBy_flushing flushing]
    rfl
  | shutsDown flushing role inactive =>
    refine ⟨⟨[], sent, .nothing ?_, ?_⟩, .inr (.inr rfl)⟩
    · rw [state]
      constructor
      · intro terminated
        cases terminated
      · intro active
        rw [show (install call socket).state = .Active from active] at inactive
        cases inactive
    · rw [writtenBy_flushing flushing]
      rfl

end MonoioTungstenite
