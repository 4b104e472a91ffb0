import MonoioTungstenite.Concord

/-! # What an end says to any other

An end may be told anything at all, by a peer that keeps to no rule and over a stream that fails.  What it queues is still
well formed, as long as its user keeps to what the messages are documented to hold (`queued_conforms`): a receiver without
limits refuses none of it. -/

namespace MonoioTungstenite

open Lib.Utf8 Reassembly

/-! ## Frames that are well formed -/

/-- A frame without a mask that is a message of its own, in the words of RFC 6455. -/
structure Proper (frame : Frame) : Prop where
  unmasked : frame.header.mask = none
  isFinal : frame.header.isFinal = true
  plain : frame.header.rsv1 = false ∧ frame.header.rsv2 = false ∧ frame.header.rsv3 = false
  body : match frame.header.opcode with
    | .Data .Text => Valid frame.payload
    | .Data .Binary => True
    | .Data _ => False
    | .Control control => ControlAllowed control true frame.payload

/-- A frame as this end is to send it: the client masks all of them and the server none. -/
structure Conforms (role : Role) (frame : Frame) : Prop where
  masked : frame.isMasked = decide (role = .Client)
  proper : Proper frame.unmasked

theorem proper_automatic {control : Control} {payload : List UInt8} (allowed : ControlAllowed control true payload) :
    Proper (automatic control payload) := ⟨rfl, rfl, ⟨rfl, rfl, rfl⟩, allowed⟩

theorem proper_close {code : Option CloseFrame} (suits : SuitsClose code) : Proper (Frame.close code) := by
  obtain ⟨payload, same, allowed⟩ := close_eq_automatic code
  rw [same]
  exact proper_automatic (allowed suits)

theorem Proper.conforms {frame : Frame} (proper : Proper frame) (socket : WebSocket) :
    Conforms socket.role (WebSocket.outgoing frame socket) := by
  constructor
  case masked =>
    rw [WebSocket.outgoing]
    cases socket.role with
    | Client => rfl
    | Server => simp [Frame.isMasked, proper.unmasked]
  case proper =>
    rw [WebSocket.unmasked_outgoing proper.unmasked]
    exact proper

/-! ## A receiver of such frames -/

theorem Proper.allowed {frame : Frame} (proper : Proper frame) {rules : Rules} (unlimited : rules.maxMessageSize = none) :
    Allowed rules none frame := by
  have body := proper.body
  refine ⟨⟨proper.plain.1, proper.plain.2.1, proper.plain.2.2, fun _ => proper.unmasked⟩, ?_⟩
  have short : ∀ maxSize ∈ rules.maxMessageSize, frame.payload.length ≤ maxSize := by simp [unlimited]
  cases opcode : frame.header.opcode with
  | Control control =>
    rw [opcode] at body
    rw [proper.isFinal]
    exact body
  | Data data =>
    rw [opcode] at body
    rw [proper.isFinal]
    cases data with
    | Text => exact (⟨short, body⟩ : WholeAllowed rules .Text frame.payload)
    | Binary => exact (⟨short, trivial⟩ : WholeAllowed rules .Binary frame.payload)
    | Continue | Reserved code => exact absurd body not_false

/-- Each of them is a message, with nothing pending behind it. -/
theorem Proper.next {frame : Frame} (proper : Proper frame) (rules : Rules) :
    ∃ message, Reassembly.next rules none frame = (some message, none) := by
  have body := proper.body
  rw [Reassembly.next]
  cases opcode : frame.header.opcode with
  | Control control =>
    rw [opcode] at body
    cases control with
    | Close | Ping | Pong => exact ⟨_, rfl⟩
    | Reserved code => exact absurd body.2.2 not_false
  | Data data =>
    simp only [proper.isFinal, if_true]
    exact ⟨_, rfl⟩

theorem reassemble_proper {rules : Rules} (unlimited : rules.maxMessageSize = none) {frames : List Frame}
    (proper : ∀ frame ∈ frames, Proper frame) (rest : List Frame) : (reassemble rules none frames).2 ≠ .refused rest := by
  induction frames with
  | nil =>
    rw [reassemble]
    intro same
    cases same
  | cons frame frames ih =>
    rw [List.forall_mem_cons] at proper
    obtain ⟨first, others⟩ := proper
    obtain ⟨message, next⟩ := first.next rules
    rw [reassemble, if_pos (first.allowed unlimited), next]
    cases message with
    | Close code =>
      intro same
      cases same
    | Text _ | Binary _ | Ping _ | Pong _ | Frame _ => exact ih others

/-! ## What a step sends -/

/-- What the messages of a user are documented to hold, and no raw frame. -/
def Message.Documented : Message → Prop
  | .Text data => Valid data.bytes
  | .Binary _ => True
  | .Ping data | .Pong data => data.length ≤ 125
  | .Close code => SuitsClose code
  | .Frame _ => False

def WebSocket.Op.Documented : WebSocket.Op → Prop
  | .read | .flush | .setConfig _ => True
  | .write message => message.Documented
  | .close code => SuitsClose code

namespace WebSocket

open FrameCodec (Use sends)

theorem proper_frameOf {message : Message} {frame : Frame} (documented : message.Documented)
    (made : frameOf message = some frame) : Proper frame := by
  cases message with
  | Text data =>
    cases made
    exact ⟨rfl, rfl, ⟨rfl, rfl, rfl⟩, documented⟩
  | Binary data =>
    cases made
    exact ⟨rfl, rfl, ⟨rfl, rfl, rfl⟩, trivial⟩
  | Ping data =>
    cases made
    exact @proper_automatic .Ping _ ⟨rfl, documented, trivial⟩
  | Pong data =>
    cases made
    exact @proper_automatic .Pong _ ⟨rfl, documented, trivial⟩
  | Close code => cases made
  | Frame raw => exact absurd documented not_false

theorem suits_of_closeAsked {op : Op} {code : Option CloseFrame} (documented : op.Documented)
    (asked : closeAsked op = some code) : SuitsClose code := by
  cases op with
  | close other =>
    cases asked
    exact documented
  | write message =>
    cases message with
    | Close other =>
      cases asked
      exact documented
    | _ => cases asked
  | _ => cases asked

/-- The frames that operations of the codec send are well formed. -/
def SendsProperly (role : Role) (before after : FrameCodec) : Prop :=
  ∃ uses, Performs uses before after ∧ ∀ frame ∈ sends uses, Conforms role frame

/-- Whatever has come, the reply to it is well formed. -/
theorem Rounded.sendsProperly {target : Target} {socket : WebSocket} {result : Result (Option Message) × WebSocket}
    (rounded : Rounded target socket result) :
    SendsProperly socket.role socket.frameCodec result.2.frameCodec := by
  have quiet : ∀ after : FramedRead,
      SendsProperly socket.role socket.frameCodec (socket.withReader after).frameCodec :=
    fun after => ⟨[], .refl after _, by simp [sends]⟩
  cases rounded with
  | @accepted frame after message incomplete canRead came grown shorter allowed delivers pending wellFormed =>
    have ran := autoSend_ran (replyTo socket.state message) (socket.delivered after incomplete message)
    rw [(reply_cases (autoSend_replied _ _)).1]
    refine ⟨_, (performs_of_eq ran.codec).withInner, ?_⟩
    have owed := answerTo_allowed (show (socket.rules target).active = socket.state.isActive from rfl) allowed
    rw [← delivers] at owed
    intro sent found
    cases replies : replyTo socket.state message with
    | none =>
      rw [replies] at found
      cases found
    | some reply =>
      rw [replies] at owed found
      obtain ⟨control, payload, rfl, fits⟩ := answerTo_control owed
      obtain rfl := List.mem_singleton.mp found
      exact (proper_automatic fits).conforms (socket.delivered after incomplete message)
  | _ => exact quiet _

theorem Stepped.sendsProperly {target : Target} {socket : WebSocket} {op : Op} {result : Reply × WebSocket}
    (stepped : Stepped target socket op result) (documented : op.Documented) :
    SendsProperly socket.role socket.frameCodec result.2.frameCodec := by
  have quiet : ∀ writeLimit, SendsProperly socket.role socket.frameCodec { socket.frameCodec with writeLimit } :=
    fun writeLimit => ⟨[], .refl socket.frameCodec.inner _, by simp [sends]⟩
  have driven : ∀ {state uses}, Drives socket op state uses → op ≠ .read → ∀ frame ∈ sends uses, Conforms socket.role frame := by
    intro state uses drives asks frame found
    cases drives with
    | configures | refuses | flushes | shutsDown => cases found
    | writes active made =>
      obtain rfl := List.mem_singleton.mp found
      exact (proper_frameOf documented made).conforms socket
    | closes active asked =>
      obtain rfl := List.mem_singleton.mp found
      exact (proper_close (suits_of_closeAsked documented asked)).conforms socket
    | reads | answersPing | answersClose => exact absurd rfl asks
  cases stepped with
  | terminated | closing => exact quiet _
  | setConfig setFunc => exact ⟨[], .refl _ _, by simp [sends]⟩
  | write message =>
    obtain ⟨uses, drives, codec⟩ := write_drives message socket
    exact ⟨uses, performs_of_eq codec, driven drives (by simp)⟩
  | flush =>
    obtain ⟨uses, drives, codec⟩ := flush_drives socket (.inl rfl)
    exact ⟨uses, performs_of_eq codec, driven drives (by simp)⟩
  | close code =>
    obtain ⟨uses, drives, codec⟩ := close_drives code socket (show closeAsked (.close code) = some code from rfl)
    exact ⟨uses, performs_of_eq codec, driven drives (by simp)⟩
  | read state reads silent wellFormed rounded =>
    obtain ⟨after, incomplete, rfl⟩ := silent.keeps
    obtain ⟨uses, performs, proper⟩ := rounded.sendsProperly
    exact ⟨uses, performs.withInner, proper⟩

/-! ## Runs -/

/-- What is queued conforms. -/
def QueuesProperly (socket : WebSocket) : Prop := ∀ frame ∈ socket.frameCodec.queued, Conforms socket.role frame

theorem QueuesProperly.step {target : Target} {socket : WebSocket} (queues : QueuesProperly socket)
    (wellFormed : socket.WellFormed) {call : Call} (documented : call.op.Documented) :
    QueuesProperly (WebSocket.step target socket call).2 := by
  have stepped := step_stepped target wellFormed call
  obtain ⟨uses, performs, proper⟩ := stepped.sendsProperly documented
  obtain ⟨sent, part, queued⟩ := performs.queued
  rw [QueuesProperly, show (WebSocket.step target socket call).2.role = socket.role from stepped.role, queued,
    List.forall_mem_append]
  exact ⟨queues, fun frame found => proper frame (part.subset found)⟩

/-- **An end is well spoken, whoever it talks to.**  Whatever arrives, and wherever reads, writes and flushes fail or stall:
as long as the user writes messages as they are documented and no raw frames, every frame that is queued, by the user or as
a reply, is a whole message of a known type without reserved bits, its text is UTF-8 and its control payload short, the
client masks it and the server does not; and a receiver without a limit refuses none of them. -/
theorem queued_conforms (target : Target) (stream : Stream) (role : Role) (config : Option WebSocketConfig)
    (calls : List Call) (documented : ∀ call ∈ calls, call.op.Documented) :
    let queued := (reached target stream role config calls).frameCodec.queued
    (∀ frame ∈ queued, Conforms role frame) ∧
      ∀ rules : Rules, rules.maxMessageSize = none →
        ∀ rest, (reassemble rules none (queued.map Frame.unmasked)).2 ≠ .refused rest := by
  intro queued
  have preserved : ∀ (socket : WebSocket) (call : Call), socket.WellFormed ∧ QueuesProperly socket →
      call.op.Documented → (step target socket call).2.WellFormed ∧ QueuesProperly (step target socket call).2 :=
    fun socket call ⟨wellFormed, queues⟩ asked =>
      ⟨step_wellFormed target wellFormed call, queues.step wellFormed asked⟩
  have initial : QueuesProperly (fromRawSocket stream role config) := by
    intro frame found
    cases found
  obtain ⟨_, queues⟩ : (reached target stream role config calls).WellFormed ∧
      QueuesProperly (reached target stream role config calls) :=
    Lib.final_invariant preserved ⟨fromRawSocket_wellFormed stream role config, initial⟩
      (Lib.meets_of_mem (fun call found _ => documented call found) _)
  have conforms : ∀ frame ∈ queued, Conforms role frame := by
    rw [QueuesProperly, show (reached target stream role config calls).role = role from
      final_role target (fromRawSocket_wellFormed stream role config) calls] at queues
    exact queues
  refine ⟨conforms, fun rules unlimited => reassemble_proper unlimited ?_⟩
  rw [List.forall_mem_map]
  exact fun frame found => (conforms frame found).proper

/-- The client greets, and answers a ping that comes between two frames that are not allowed; its stream fails then. -/
def heckled : List Call :=
  [.reading (.write (.Text ⟨[0x68, 0x69]⟩)) [], .reading .read [.fill [0xf1, 0x00, 0x89, 0x01, 0x07, 0xf1, 0x00], .decode],
    ⟨.read, [.decode, .decode], [.failed 1 ⟨.BrokenPipe⟩], [], [], []⟩]

theorem queued_conforms_heckled :
    let queued := (reached (.unlimited .w64) .new .Client none heckled).frameCodec.queued
    (∀ frame ∈ queued, Conforms .Client frame) ∧
      ∀ rules : Rules, rules.maxMessageSize = none →
        ∀ rest, (reassemble rules none (queued.map Frame.unmasked)).2 ≠ .refused rest := by
  have documented : ∀ call ∈ heckled, call.op.Documented := by
    have greeting : Message.Documented (.Text ⟨[0x68, 0x69]⟩) := show Valid [0x68, 0x69] by decide
    simp [heckled, Call.reading, Op.Documented, greeting]
  exact queued_conforms (.unlimited .w64) .new .Client none heckled documented

end WebSocket

end MonoioTungstenite
