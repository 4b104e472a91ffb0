import MonoioTungstenite.States
import MonoioTungstenite.Wire

/-! # What a step writes

Every step of the socket comes down to at most two operations of its codec, performed up to the first that
does not succeed (`Stepped.drives`).  A frame is appended to the write buffer on an active socket only, and
a close frame makes it inactive: nothing follows it (`close_last`), unless the user writes a close frame as
a raw frame. -/

namespace MonoioTungstenite

open Lib.Utf8 Reassembly

namespace WebSocket

open FrameCodec (Use useAll sends)

/-! ## Operations of the socket -/

/-- The result of performing operations of the codec: their effect, with `Ok` exactly where they all
succeed. -/
structure Ran (uses : List Use) (socket : WebSocket) (result : Result Unit × WebSocket) : Prop extends
    WritesOnly socket result.2 where
  codec : result.2.frameCodec = (useAll uses socket.frameCodec).2
  returned : result.1 = .ok () ↔ (useAll uses socket.frameCodec).1 = .ok ()

theorem Ran.andThen {first second : List Use} {socket : WebSocket} {call : Result Unit × WebSocket}
    {rest : Unit → WebSocket → Result Unit × WebSocket} (ran : Ran first socket call)
    (next : ∀ socket, Ran second socket (rest () socket)) : Ran (first ++ second) socket (Lib.andThen call rest) := by
  obtain ⟨writes, codec, returned⟩ := ran
  obtain ⟨outcome, after⟩ := call
  have whole := FrameCodec.useAll_append first second socket.frameCodec
  by_cases done : (useAll first socket.frameCodec).1 = .ok ()
  · obtain rfl : outcome = .ok () := returned.mpr done
    have split : useAll first socket.frameCodec = (.ok (), after.frameCodec) := Prod.ext done codec.symm
    rw [split, Lib.andThen_ok] at whole
    obtain ⟨restWrites, restCodec, restReturned⟩ := next after
    rw [Lib.andThen_ok]
    exact ⟨writes.trans _ _ _ restWrites, by rw [whole]; exact restCodec, by rw [whole]; exact restReturned⟩
  · have failed : outcome ≠ .ok () := fun same => done (returned.mp same)
    have stops : ∀ (call : Result Unit × FrameCodec), call.1 ≠ .ok () →
        (Lib.andThen call fun _ codec => useAll second codec) = call := by
      rintro ⟨outcome, codec⟩ failed
      cases outcome with
      | ok => exact absurd rfl failed
      | _ => rfl
    rw [stops _ done] at whole
    have same : Lib.andThen (outcome, after) rest = (outcome, after) := by
      cases outcome with
      | ok => exact absurd rfl failed
      | _ => rfl
    rw [same]
    exact ⟨writes, by rw [whole]; exact codec, by rw [whole]; exact returned⟩

theorem writeFrame_ran (frame : Frame) (socket : WebSocket) :
    Ran [.send (outgoing frame socket)] socket (writeFrame frame socket) := by
  refine ⟨writeFrame_writesOnly frame socket, ?_, ?_⟩
  · rw [FrameCodec.useAll_single]
    rfl
  · rw [FrameCodec.useAll_single]
    show checkConnectionReset socket.state (socket.frameCodec.send (outgoing frame socket)).1 = .ok () ↔ _
    have ended := FrameCodec.send_ended (outgoing frame socket) socket.frameCodec
    show _ ↔ (socket.frameCodec.send (outgoing frame socket)).1 = .ok ()
    generalize (socket.frameCodec.send (outgoing frame socket)).1 = result at ended
    cases ended with
    | ok => exact Iff.rfl
    | failed error =>
      rw [checkConnectionReset_io]
      exact ⟨nofun, nofun⟩
    | stalled => exact ⟨nofun, nofun⟩

theorem onCodec_flush_ran (socket : WebSocket) : Ran [.flush] socket (onCodec FrameCodec.flush socket) := by
  refine ⟨flush_writesOnly socket, ?_, ?_⟩
  · rw [FrameCodec.useAll_single]
    rfl
  · rw [FrameCodec.useAll_single]
    exact Iff.rfl

/-- The operations that send a reply. -/
def replyUses (reply : Option Frame) (socket : WebSocket) : List Use :=
  match reply with
  | some frame => [.send (outgoing frame socket), .flush]
  | none => []

theorem autoSend_ran (reply : Option Frame) (socket : WebSocket) :
    Ran (replyUses reply socket) socket (autoSend reply socket) := by
  cases reply with
  | none => exact ⟨.refl socket, rfl, Iff.rfl⟩
  | some frame => exact (writeFrame_ran frame socket).andThen fun socket => onCodec_flush_ran socket

theorem close_of_active (code : Option CloseFrame) {socket : WebSocket} (active : socket.state = .Active) :
    close code socket = Lib.andThen (writeFrame (Frame.close code) { socket with state := .ClosedByUs })
      fun _ socket => onCodec FrameCodec.flush socket := by
  have state := (writeFrame_writesOnly (Frame.close code) { socket with state := .ClosedByUs }).state
  rw [close, if_pos active]
  generalize writeFrame (Frame.close code) { socket with state := .ClosedByUs } = call at state
  obtain ⟨outcome, after⟩ := call
  have canRead : after.state.canRead = true := by
    rw [show after.state = .ClosedByUs from state]
    rfl
  cases outcome with
  | ok => exact flush_of_canRead canRead
  | _ => rfl

/-- On an active socket, `close` queues a close frame and flushes. -/
theorem close_ran (code : Option CloseFrame) {socket : WebSocket} (active : socket.state = .Active) :
    Ran [.send (outgoing (Frame.close code) socket), .flush] { socket with state := .ClosedByUs }
      (close code socket) := by
  rw [close_of_active code active]
  exact (writeFrame_ran (Frame.close code) { socket with state := .ClosedByUs }).andThen
    fun socket => onCodec_flush_ran socket

/-- A server that is closing closes its codec. -/
theorem flush_closes {socket : WebSocket} (role : socket.role = .Server) (closing : socket.state.canRead = false) :
    (flush socket).2.frameCodec = (useAll [.close] socket.frameCodec).2 := by
  rw [flush, if_pos ⟨role, by rw [closing]; exact Bool.false_ne_true⟩, FrameCodec.useAll_single]
  have kept := @Lib.andThen_keeps _ _ _ _ _ _ WebSocket.frameCodec
    (onCodec FrameCodec.close { socket with state := .Terminated })
    (fun _ socket => ((.err .ConnectionClosed : Result Unit), socket)) fun _ _ => rfl
  exact kept

/-! ## What a step comes down to -/

/-- The frame for a message, where `write` makes one. -/
def frameOf : Message → Option Frame
  | .Text data => some (Frame.message data.bytes (.Data .Text) true)
  | .Binary data => some (Frame.message data (.Data .Binary) true)
  | .Ping data => some (Frame.ping data)
  | .Pong data => some (Frame.pong data)
  | .Close _ => none
  | .Frame frame => some frame

/-- The close frame that an operation asks for. -/
def closeAsked : Op → Option (Option CloseFrame)
  | .close code | .write (.Close code) => some code
  | _ => none

/-- The operations of the codec that a step performs, by the operation of the socket and the state it
leaves behind. -/
inductive Drives (socket : WebSocket) : Op → WebSocketState → List Use → Prop
  | configures (setFunc : WebSocketConfig → WebSocketConfig) : Drives socket (.setConfig setFunc) socket.state []
  | refuses (message : Message) (inactive : socket.state ≠ .Active) : Drives socket (.write message) socket.state []
  | reads {state : WebSocketState} (forward : Forward socket.state state) : Drives socket .read state []
  | writes {message : Message} {frame : Frame} (active : socket.state = .Active) (made : frameOf message = some frame) :
    Drives socket (.write message) .Active [.send (outgoing frame socket)]
  | closes {op : Op} {code : Option CloseFrame} (active : socket.state = .Active) (asked : closeAsked op = some code) :
    Drives socket op .ClosedByUs [.send (outgoing (Frame.close code) socket), .flush]
  | answersPing (data : List UInt8) (active : socket.state = .Active) :
    Drives socket .read .Active [.send (outgoing (Frame.pong data) socket), .flush]
  | answersClose (code : Option CloseFrame) (active : socket.state = .Active) :
    Drives socket .read .ClosedByPeer [.send (outgoing (Frame.close code) socket), .flush]
  | flushes {op : Op} (flushing : op = .flush ∨ (closeAsked op).isSome = true) : Drives socket op socket.state [.flush]
  | shutsDown {op : Op} (flushing : op = .flush ∨ (closeAsked op).isSome = true) (role : socket.role = .Server)
    (inactive : socket.state.canRead = false) : Drives socket op .Terminated [.close]

theorem flush_drives (socket : WebSocket) {op : Op} (flushing : op = .flush ∨ (closeAsked op).isSome = true) :
    ∃ uses, Drives socket op (flush socket).2.state uses ∧
      (flush socket).2.frameCodec = (useAll uses socket.frameCodec).2 := by
  have flushed := flush_flushed socket
  have closes : socket.role = .Server → socket.state.canRead = false →
    (flush socket).2.frameCodec = (useAll [.close] socket.frameCodec).2 := flush_closes
  generalize flush socket = result at flushed closes
  cases flushed with
  | closed role closing terminated _ | failed _ role closing terminated _ | stalled role closing terminated _ =>
    rw [terminated]
    exact ⟨_, .shutsDown flushing role closing, closes role closing⟩
  | codec =>
    have ran := onCodec_flush_ran socket
    rw [ran.state]
    exact ⟨_, .flushes flushing, ran.codec⟩

theorem close_drives (code : Option CloseFrame) (socket : WebSocket) {op : Op} (asked : closeAsked op = some code) :
    ∃ uses, Drives socket op (close code socket).2.state uses ∧
      (close code socket).2.frameCodec = (useAll uses socket.frameCodec).2 := by
  by_cases active : socket.state = .Active
  · have ran := close_ran code active
    rw [show (close code socket).2.state = .ClosedByUs from ran.state]
    exact ⟨_, .closes active asked, ran.codec⟩
  · rw [close, if_neg active, Lib.andThen_ok]
    exact flush_drives socket (.inr (by rw [asked]; rfl))

theorem write_of_frame {message : Message} {frame : Frame} {socket : WebSocket} (active : socket.state = .Active)
    (made : frameOf message = some frame) : write message socket = writeFrame frame socket := by
  rw [write.eq_def, if_neg (by rw [active]; decide), if_neg (by rw [active]; exact not_not_intro rfl)]
  cases message <;> cases made <;> rfl

theorem write_drives (message : Message) (socket : WebSocket) :
    ∃ uses, Drives socket (.write message) (write message socket).2.state uses ∧
      (write message socket).2.frameCodec = (useAll uses socket.frameCodec).2 := by
  by_cases active : socket.state = .Active
  · cases made : frameOf message with
    | none =>
      cases message with
      | Close code =>
        rw [write, if_neg (by rw [active]; decide), if_neg (by rw [active]; exact not_not_intro rfl)]
        exact close_drives code socket rfl
      | _ => cases made
    | some frame =>
      have ran := writeFrame_ran frame socket
      rw [write_of_frame active made, ran.state, active]
      exact ⟨_, .writes active made, ran.codec⟩
  · obtain ⟨_, run⟩ : ∃ error, write message socket = (.err error, socket) := write_refused active
    rw [run]
    exact ⟨[], .refuses message active, rfl⟩

/-- The reply to a message on a connection that can be read. -/
theorem replyUses_drives {socket : WebSocket} (canRead : socket.state.canRead = true) (message : Option Message) :
    Drives socket .read (stateAfter socket.state message) (replyUses (replyTo socket.state message) socket) := by
  have forward := Forward.stateAfter canRead message
  cases state : socket.state with
  | Active =>
    match message with
    | some (.Close code) => exact .answersClose code state
    | some (.Ping data) => exact .answersPing data state
    | none | some (.Text _) | some (.Binary _) | some (.Pong _) | some (.Frame _) =>
      exact .reads (by rw [state]; exact .refl _)
  | ClosedByUs =>
    rw [state] at forward
    have silent : replyTo .ClosedByUs message = none := by
      match message with
      | none | some (.Text _) | some (.Binary _) | some (.Ping _) | some (.Pong _) | some (.Close _) |
        some (.Frame _) => rfl
    rw [silent]
    exact .reads (by rw [state]; exact forward)
  | ClosedByPeer | CloseAcknowledged | Terminated => rw [state] at canRead; cases canRead

/-- What is on the write side of a codec is what these operations make of it. -/
def Performs (uses : List Use) (before after : FrameCodec) : Prop :=
  ∃ inner writeLimit, after = { (useAll uses before).2 with inner, writeLimit }

theorem Performs.refl {codec : FrameCodec} (inner : FramedRead) (writeLimit : Nat) :
    Performs [] codec { codec with inner, writeLimit } := ⟨inner, writeLimit, rfl⟩

theorem performs_of_eq {uses : List Use} {before after : FrameCodec} (same : after = (useAll uses before).2) :
    Performs uses before after := ⟨after.inner, after.writeLimit, by rw [← same]⟩

theorem Performs.withInner {uses : List Use} {before after : FrameCodec} {inner : FramedRead}
    (performs : Performs uses (before.withInner inner) after) : Performs uses before after := by
  obtain ⟨other, writeLimit, rfl⟩ := performs
  exact ⟨other, writeLimit, by rw [FrameCodec.useAll_withInner]; rfl⟩

theorem Rounded.drives {target : Target} {socket : WebSocket} {result : Reply × WebSocket}
    (rounded : Rounded target socket result) :
    ∃ uses, Drives socket .read result.2.state uses ∧ Performs uses socket.frameCodec result.2.frameCodec := by
  have quiet : ∀ after : FramedRead, Performs [] socket.frameCodec (socket.withReader after).frameCodec :=
    fun after => .refl after _
  cases rounded with
  | @accepted frame after message incomplete canRead came grown shorter allowed delivers pending wellFormed =>
    have ran := autoSend_ran (replyTo socket.state message) (socket.delivered after incomplete message)
    rw [(reply_cases (autoSend_replied _ _)).1, ran.state]
    exact ⟨_, replyUses_drives canRead message, (performs_of_eq ran.codec).withInner⟩
  | eof => exact ⟨[], .reads (.terminate _), quiet _⟩
  | _ => exact ⟨[], .reads (.refl _), quiet _⟩

/-- Every step comes down to operations of the codec. -/
theorem Stepped.drives {target : Target} {socket : WebSocket} {op : Op} {result : Reply × WebSocket}
    (stepped : Stepped target socket op result) :
    ∃ uses, Drives socket op result.2.state uses ∧ Performs uses socket.frameCodec result.2.frameCodec := by
  have quiet : Performs [] socket.frameCodec socket.frameCodec := .refl socket.frameCodec.inner _
  cases stepped with
  | terminated => exact ⟨[], .reads (.refl _), quiet⟩
  | closing => exact ⟨[], .reads (.terminate _), quiet⟩
  | setConfig setFunc => exact ⟨[], .configures setFunc, .refl _ _⟩
  | write message =>
    obtain ⟨uses, drives, codec⟩ := write_drives message socket
    exact ⟨uses, drives, performs_of_eq codec⟩
  | flush =>
    obtain ⟨uses, drives, codec⟩ := flush_drives socket (.inl rfl)
    exact ⟨uses, drives, performs_of_eq codec⟩
  | close code =>
    obtain ⟨uses, drives, codec⟩ := close_drives code socket (show closeAsked (.close code) = some code from rfl)
    exact ⟨uses, drives, performs_of_eq codec⟩
  | read state reads silent wellFormed rounded =>
    obtain ⟨after, incomplete, rfl⟩ := silent.keeps
    obtain ⟨uses, drives, performs⟩ := rounded.drives
    refine ⟨uses, ?_, performs.withInner⟩
    generalize result.2.state = after at drives ⊢
    cases drives with
    | reads forward => exact .reads forward
    | answersPing data active => exact .answersPing data active
    | answersClose code active => exact .answersClose code active
    | closes active asked => cases asked
    | flushes flushing => rcases flushing with same | some <;> first | cases same | cases some
    | shutsDown flushing => rcases flushing with same | some <;> first | cases same | cases some

theorem step_drives (target : Target) {socket : WebSocket} (wellFormed : socket.WellFormed) (call : Call) :
    ∃ uses, Drives (install call socket) call.op (step target socket call).2.state uses ∧
      Performs uses (install call socket).frameCodec (step target socket call).2.frameCodec :=
  (step_stepped target wellFormed call).drives

/-! ## Runs of the socket are runs of the codec -/

/-- Nothing differs between the two but the reader, the limit and the answers to come. -/
structure SameWire (left right : FrameCodec) : Prop where
  log : left.io.log = right.io.log
  writeBuf : left.writeBuf = right.writeBuf
  queued : left.queued = right.queued

theorem SameWire.before {left right : FrameCodec} (same : SameWire left right) (call : FrameCodec.UseCall) :
    left.before call = (right.before call).withInner left.inner := by
  obtain ⟨⟨decoder, buffer, script, received, history⟩, ⟨log, writes, flushes, shutdowns⟩, writeBuf, writeLimit, queued⟩ := left
  obtain ⟨sameLog, sameBuf, sameQueued⟩ := same
  cases sameLog
  cases sameBuf
  cases sameQueued
  rfl

theorem SameWire.final {left right : FrameCodec} (same : SameWire left right) (calls : List FrameCodec.UseCall) :
    SameWire (Lib.final FrameCodec.step left calls) (Lib.final FrameCodec.step right calls) := by
  induction calls generalizing left right with
  | nil => exact same
  | cons call calls inductionHypothesis =>
    refine inductionHypothesis ?_
    show SameWire ((left.before call).use call.use).2 ((right.before call).use call.use).2
    rw [same.before call, FrameCodec.use_withInner]
    exact ⟨rfl, rfl, rfl⟩

/-- What a step writes, a run of the codec writes. -/
theorem step_wire (target : Target) {socket : WebSocket} (wellFormed : socket.WellFormed) (call : Call) :
    ∃ calls, SameWire (step target socket call).2.frameCodec (Lib.final FrameCodec.step socket.frameCodec calls) := by
  obtain ⟨uses, _, inner, writeLimit, codec⟩ := step_drives target wellFormed call
  obtain ⟨calls, run⟩ := FrameCodec.useAll_final uses (install call socket).frameCodec
  have installed : SameWire (install call socket).frameCodec socket.frameCodec := ⟨rfl, rfl, rfl⟩
  have after : SameWire (step target socket call).2.frameCodec
      (Lib.final FrameCodec.step (install call socket).frameCodec calls) := by
    rw [codec, run]
    exact ⟨rfl, rfl, rfl⟩
  have same := installed.final calls
  exact ⟨calls, after.log.trans same.log, after.writeBuf.trans same.writeBuf, after.queued.trans same.queued⟩

/-- What a run of the socket writes, a run of the codec writes. -/
theorem reached_wire (target : Target) (role : Role) (config : Option WebSocketConfig) (calls : List Call) :
    ∃ uses, SameWire (reached target .new role config calls).frameCodec
      (Lib.final FrameCodec.step (FrameCodec.new .new (config.getD .default).writeBufferSize) uses) := by
  have preserved : ∀ (socket : WebSocket) (call : Call),
      (socket.WellFormed ∧ ∃ uses, SameWire socket.frameCodec
        (Lib.final FrameCodec.step (FrameCodec.new .new (config.getD .default).writeBufferSize) uses)) →
      (step target socket call).2.WellFormed ∧ ∃ uses, SameWire (step target socket call).2.frameCodec
        (Lib.final FrameCodec.step (FrameCodec.new .new (config.getD .default).writeBufferSize) uses) := by
    rintro socket call ⟨wellFormed, uses, same⟩
    obtain ⟨more, wire⟩ := step_wire target wellFormed call
    have rest := same.final more
    refine ⟨step_wellFormed target wellFormed call, uses ++ more, ?_⟩
    rw [Lib.final_append]
    exact ⟨wire.log.trans rest.log, wire.writeBuf.trans rest.writeBuf, wire.queued.trans rest.queued⟩
  have initial := fromRawSocket_wellFormed .new role config
  exact (@Lib.final_preserves _ _ _ (step target) (fun socket : WebSocket => socket.WellFormed ∧ ∃ uses,
    SameWire socket.frameCodec (Lib.final FrameCodec.step
      (FrameCodec.new .new (config.getD .default).writeBufferSize) uses))
    preserved _ calls ⟨initial, [], ⟨rfl, rfl, rfl⟩⟩).2

end WebSocket

/-! ## Close frames -/

/-- The frame stands on the wire as a close frame. -/
def Frame.closes (frame : Frame) : Bool := (frame.header.opcode.toU8 &&& 0x0F) = 8

theorem Frame.closes_of_opcode {frame : Frame} {opcode : OpCode} (same : frame.header.opcode = opcode) :
    frame.closes = decide ((opcode.toU8 &&& 0x0F) = 8) := by rw [closes, same]

/-- A close frame is the last frame, if there is one. -/
def ClosesLast (frames : List Frame) : Prop :=
  ∀ before frame after, frames = before ++ frame :: after → frame.closes = true → after = []

theorem closesLast_of_none {frames : List Frame} (none : ∀ frame ∈ frames, frame.closes = false) :
    ClosesLast frames := by
  rintro before frame after rfl closes
  rw [none frame (by simp)] at closes
  cases closes

/-- A frame may follow where no close frame has gone before. -/
theorem closesLast_concat {frames : List Frame} (none : ∀ frame ∈ frames, frame.closes = false) (last : Frame) :
    ClosesLast (frames ++ [last]) := by
  intro before frame after split closes
  rcases List.eq_nil_or_concat after with rfl | ⟨middle, other, rfl⟩
  · rfl
  · have whole : frames ++ [last] = (before ++ frame :: middle) ++ [other] := by rw [split]; simp
    obtain ⟨rfl, _⟩ := List.append_inj' whole rfl
    rw [none frame (by simp)] at closes
    cases closes

/-- The buffer is within its limit, or will be flushed with success. -/
def FrameCodec.HasRoom (codec : FrameCodec) : Prop :=
  codec.writeBuf.length ≤ codec.writeLimit ∨
    (codec.io.writes.headD .done = .done ∧ codec.io.flushes.headD .done = .done)

theorem FrameCodec.hasRoom_of_flush {codec : FrameCodec} (exceeds : codec.writeLimit < codec.writeBuf.length)
    (flushed : codec.flush.1 = .ok ()) : codec.HasRoom := by
  have nonempty : codec.writeBuf ≠ [] := List.length_pos_iff.mp (by omega)
  exact .inr ((codec.flush_ok_iff.mp flushed).resolve_left nonempty)

theorem FrameCodec.hasRoom_of_send {codec : FrameCodec} {frame : Frame} (sent : (codec.send frame).1 = .ok ()) :
    codec.HasRoom := by
  have ended := codec.send_sent frame
  generalize codec.send frame = result at ended sent
  cases ended with
  | appended fits => exact .inl fits
  | flushed exceeds flushed => exact hasRoom_of_flush exceeds flushed
  | stopped exceeds stopped => exact absurd sent stopped

theorem Forward.active {state : WebSocketState} (forward : Forward state .Active) : state = .Active := by
  cases forward
  rfl

namespace WebSocket

open FrameCodec (Use sends)

/-- The user writes a close frame as a raw frame, and it is appended. -/
def RawClose (socket : WebSocket) (call : Call) : Prop :=
  socket.state = .Active ∧ (install call socket).frameCodec.HasRoom ∧
    ∃ frame, call.op = .write (.Frame frame) ∧ frame.closes = true

/-- A close frame comes last in the queue, and there is none while the connection is active. -/
structure QueueClosed (socket : WebSocket) : Prop where
  last : ClosesLast socket.frameCodec.queued
  active : socket.state = .Active → ∀ frame ∈ socket.frameCodec.queued, frame.closes = false

@[simp] theorem outgoing_closes (frame : Frame) (socket : WebSocket) :
    (outgoing frame socket).closes = frame.closes := by
  unfold outgoing
  cases socket.role <;> rfl

/-- A frame that `write` makes, and that is no close frame. -/
theorem frameOf_closes {message : Message} {frame : Frame} (made : frameOf message = some frame)
    (closes : frame.closes = true) : message = .Frame frame := by
  cases message with
  | Frame raw => cases made; rfl
  | Close code => cases made
  | Text data | Binary data | Ping data | Pong data =>
    cases made
    simp only [Frame.closes, Frame.message, Frame.ping, Frame.pong, OpCode.toU8] at closes
    exact absurd (of_decide_eq_true closes) (by decide)

theorem Performs.queued {uses : List Use} {before after : FrameCodec} (performs : Performs uses before after) :
    ∃ sent, sent <+: sends uses ∧ after.queued = before.queued ++ sent := by
  obtain ⟨inner, writeLimit, rfl⟩ := performs
  exact FrameCodec.useAll_queued uses before

/-- A single frame that has been appended was appended by a `send` that succeeded. -/
theorem Performs.hasRoom {frame : Frame} {before after : FrameCodec} (performs : Performs [.send frame] before after)
    (appended : after.queued ≠ before.queued) : before.HasRoom := by
  obtain ⟨inner, writeLimit, rfl⟩ := performs
  have grown := before.use_queued (.send frame)
  rw [FrameCodec.useAll_single] at appended
  cases sent : (before.use (.send frame)).1 with
  | ok => exact FrameCodec.hasRoom_of_send sent
  | err error => rw [sent] at grown; exact absurd (grown.trans (List.append_nil _)) appended
  | panic site => rw [sent] at grown; exact absurd (grown.trans (List.append_nil _)) appended
  | pending => rw [sent] at grown; exact absurd (grown.trans (List.append_nil _)) appended

theorem QueueClosed.kept {before after : WebSocket} (queue : QueueClosed before)
    (forward : Forward before.state after.state) (same : after.frameCodec.queued = before.frameCodec.queued) :
    QueueClosed after := by
  refine ⟨by rw [same]; exact queue.last, fun active => ?_⟩
  rw [active] at forward
  rw [same]
  exact queue.active forward.active

/-- On an active connection a frame may be appended, if it is no close frame or the connection is then
closing. -/
theorem QueueClosed.grown {before after : WebSocket} (queue : QueueClosed before) (active : before.state = .Active)
    {frame : Frame} (appended : after.frameCodec.queued = before.frameCodec.queued ++ [frame])
    (inStep : after.state = .Active → frame.closes = false) : QueueClosed after := by
  have none := queue.active active
  refine ⟨by rw [appended]; exact closesLast_concat none frame, fun stillActive => ?_⟩
  rw [appended]
  intro other found
  rcases List.mem_append.mp found with old | new
  · exact none other old
  · rw [List.mem_singleton.mp new]
    exact inStep stillActive

/-- Every step that appends no close frame behind the back of the state keeps the queue in order. -/
theorem QueueClosed.step {target : Target} {socket : WebSocket} (queue : QueueClosed socket)
    (wellFormed : socket.WellFormed) {call : Call} (noRaw : ¬ RawClose socket call) :
    QueueClosed (WebSocket.step target socket call).2 := by
  have forward := step_forward target wellFormed call
  obtain ⟨uses, drives, performs⟩ := step_drives target wellFormed call
  obtain ⟨sent, part, queued⟩ := performs.queued
  have nothing : sends uses = [] → QueueClosed (WebSocket.step target socket call).2 := by
    intro none
    rw [none, List.prefix_nil] at part
    rw [part, List.append_nil] at queued
    exact queue.kept forward queued
  -- the frame may have been left out, if a flush before it failed
  have atMostOne : ∀ {frame : Frame}, sends uses = [frame] → (install call socket).state = .Active →
      ((WebSocket.step target socket call).2.state = .Active → sent = [frame] → frame.closes = false) →
      QueueClosed (WebSocket.step target socket call).2 := by
    intro frame one active inStep
    rw [one] at part
    cases sent with
    | nil =>
      rw [List.append_nil] at queued
      exact queue.kept forward queued
    | cons first rest =>
      obtain ⟨rfl, nothing⟩ := List.cons_prefix_cons.mp part
      obtain rfl := List.prefix_nil.mp nothing
      exact queue.grown active queued fun stillActive => inStep stillActive rfl
  generalize state : (WebSocket.step target socket call).2.state = after at drives
  generalize operation : call.op = op at drives
  cases drives with
  | configures | refuses | reads | flushes | shutsDown => exact nothing rfl
  | closes active => exact atMostOne rfl active fun stillActive => by rw [state] at stillActive; cases stillActive
  | answersClose code active =>
    exact atMostOne rfl active fun stillActive => by rw [state] at stillActive; cases stillActive
  | answersPing data active =>
    refine atMostOne rfl active fun _ _ => ?_
    rw [outgoing_closes, Frame.closes_of_opcode (show _ = OpCode.Control .Pong from rfl)]
    decide
  | @writes message frame active made =>
    refine atMostOne rfl active fun _ appended => ?_
    rw [outgoing_closes]
    cases closes : frame.closes with
    | false => rfl
    | true =>
      -- only a raw frame can be a close frame here
      obtain rfl := frameOf_closes made closes
      have room := performs.hasRoom (by rw [queued, appended]; simp)
      exact absurd ⟨active, room, frame, operation, closes⟩ noRaw

theorem queueClosed_fromRawSocket (stream : Stream) (role : Role) (config : Option WebSocketConfig) :
    QueueClosed (fromRawSocket stream role config) := by
  have none : ∀ frame ∈ (fromRawSocket stream role config).frameCodec.queued, frame.closes = false := by simp
  exact ⟨closesLast_of_none none, fun _ => none⟩

/-- Nothing follows a close frame, in every run in which the user appends none as a raw frame. -/
theorem close_last (target : Target) (stream : Stream) (role : Role) (config : Option WebSocketConfig)
    (calls : List Call) (noRaw : Lib.Meets (step target) (fun socket call => ¬ RawClose socket call)
      (fromRawSocket stream role config) calls) :
    ClosesLast (reached target stream role config calls).frameCodec.queued := by
  have preserved : ∀ (socket : WebSocket) (call : Call), socket.WellFormed ∧ QueueClosed socket →
      ¬ RawClose socket call → (step target socket call).2.WellFormed ∧ QueueClosed (step target socket call).2 :=
    fun socket call both shown => ⟨step_wellFormed target both.1 call, both.2.step both.1 shown⟩
  have initial := And.intro (fromRawSocket_wellFormed stream role config) (queueClosed_fromRawSocket stream role config)
  exact (@Lib.final_invariant _ _ _ (step target) (fun socket : WebSocket => socket.WellFormed ∧ QueueClosed socket)
    _ preserved _ _ initial noRaw).2.last

/-- A client that writes, closes and tries to write again. -/
def writesAfterClose : List Call :=
  [.reading (.write (.Ping [1])) [], .reading (.close none) [], .reading (.write (.Ping [2])) []]

theorem close_last_writesAfterClose :
    ClosesLast (reached (.unlimited .w64) .new .Client none writesAfterClose).frameCodec.queued := by
  refine close_last _ _ _ _ _ ⟨?_, ?_, ?_, trivial⟩
  · rintro ⟨_, _, frame, isRaw, _⟩
    cases isRaw
  · rintro ⟨_, _, frame, isRaw, _⟩
    cases isRaw
  · rintro ⟨_, _, frame, isRaw, _⟩
    cases isRaw

/-- A server that writes a close frame as a raw frame, and then a ping. -/
def writesAfterRawClose : List Call :=
  [.reading (.write (.Frame (Frame.close none))) [], .reading (.write (.Ping [])) []]

/-- The ping is queued behind the close frame. -/
theorem not_closesLast_raw :
    ¬ ClosesLast (reached (.unlimited .w64) .new .Server none writesAfterRawClose).frameCodec.queued := by
  intro last
  have followed := last [] (Frame.close none) [Frame.ping []] (by decide) (by decide)
  cases followed

end WebSocket

end MonoioTungstenite
