import MonoioTungstenite.Link

/-! # The sockets keep the queues

In fair turns two joined sockets do what `Link` allows (`ends_linked`).  The queue of an end is made of the frames that
its codec has queued and that the reader of the other end has not handed out. -/

namespace MonoioTungstenite

open WebSocket Reassembly

/-! ## Frames and messages -/

/-- The message in a frame of a whole message. -/
def Frame.carries (frame : Frame) : Option Message :=
  match frame.header.opcode with
  | .Data .Text => some (.Text ⟨frame.payload⟩)
  | .Data .Binary => some (.Binary frame.payload)
  | .Control .Ping => some (.Ping frame.payload)
  | .Control .Pong => some (.Pong frame.payload)
  | .Control .Close => some (.Close (closeBody frame.payload))
  | _ => none

@[simp] theorem carries_outgoing (frame : Frame) (socket : WebSocket) :
    (outgoing frame socket).carries = frame.carries := by
  rw [outgoing]
  cases socket.role <;> rfl

theorem carries_frameOf {message : Message} {frame : Frame} (made : frameOf message = some frame)
    (whole : ∀ raw, message ≠ .Frame raw) : frame.carries = some message.onWire := by
  cases message with
  | Close code => cases made
  | Frame raw => exact absurd rfl (whole raw)
  | Text | Binary | Ping | Pong =>
    cases made
    rfl

theorem carries_close (code : Option CloseFrame) : (Frame.close code).carries = some (Message.Close code).onWire := by
  cases code with
  | none => rfl
  | some frame =>
    have bytes : ∃ high low, Lib.toBe 2 frame.code.toU16.toNat = [high, low] :=
      List.length_eq_two.mp (Lib.length_toBe 2 _)
    obtain ⟨high, low, split⟩ := bytes
    have small : frame.code.toU16.toNat < 256 ^ 2 := frame.code.toU16.toNat_lt
    have number : UInt16.ofNat (Lib.ofBe [high, low]) = frame.code.toU16 := by
      rw [← split, Lib.ofBe_toBe, Nat.mod_eq_of_lt small, UInt16.ofNat_toNat]
    show some (Message.Close (closeBody (Lib.toBe 2 frame.code.toU16.toNat ++ frame.reason.bytes))) = _
    rw [split]
    show some (Message.Close (some ⟨CloseCode.ofU16 (UInt16.ofNat (Lib.ofBe [high, low])), ⟨frame.reason.bytes⟩⟩)) = _
    rw [number]
    rfl

theorem passedOn_closeBody (rules : Rules) (payload : List UInt8) :
    (Message.Close (closeBody payload)).passedOn (!rules.active) = .Close (closeOf rules payload) := by
  match payload with
  | [] | [_] => rfl
  | high :: low :: reason =>
    rw [closeBody, closeOf, Message.passedOn]
    cases rules.active with
    | true => simp only [Bool.not_true, true_and]; split <;> rfl
    | false => simp

/-- What the other end makes of a frame is the message in it, as it is passed on. -/
theorem Sendable.carries {width : PointerWidth} {config : WebSocketConfig} {role : Role} {frame : Frame}
    (sendable : Sendable width config role frame) {rules : Rules} (same : rules.role = role.other)
    (maxMessageSize : rules.maxMessageSize = config.maxMessageSize) :
    ∃ message, frame.carries = some message ∧
      next rules none frame.unmasked = (some (message.passedOn (!rules.active)), none) := by
  have allowed := (sendable.allowed rules same maxMessageSize).2
  rw [Frame.carries, next]
  simp only [unmasked_opcode, unmasked_isFinal, unmasked_payload, sendable.isFinal] at allowed ⊢
  cases opcode : frame.header.opcode with
  | Data data =>
    rw [opcode] at allowed
    cases data with
    | Text => exact ⟨_, rfl, rfl⟩
    | Binary => exact ⟨_, rfl, rfl⟩
    | Continue | Reserved code => exact absurd allowed not_false
  | Control control =>
    rw [opcode] at allowed
    cases control with
    | Ping => exact ⟨_, rfl, rfl⟩
    | Pong => exact ⟨_, rfl, rfl⟩
    | Close =>
      refine ⟨_, rfl, ?_⟩
      rw [passedOn_closeBody]
    | Reserved code => exact absurd allowed.2.2 not_false

/-! ## Turns that only write -/

/-- What an operation that does not read comes to, on a stream that does what it is asked. -/
inductive WroteCalmly (socket : WebSocket) : Op → Reply × WebSocket → Prop
  | sends {message : Message} {frame : Frame} {after : WebSocket} (active : socket.state = .Active)
    (made : frameOf message = some frame) (state : after.state = .Active)
    (queued : after.frameCodec.queued = socket.frameCodec.queued ++ [outgoing frame socket]) :
    WroteCalmly socket (.write message) (.ok none, after)
  | closes {op : Op} {code : Option CloseFrame} {after : WebSocket} (active : socket.state = .Active)
    (asked : closeAsked op = some code) (state : after.state = .ClosedByUs)
    (queued : after.frameCodec.queued = socket.frameCodec.queued ++ [outgoing (Frame.close code) socket]) :
    WroteCalmly socket op (.ok none, after)
  | refuses {message : Message} {error : Error} (inactive : socket.state ≠ .Active)
    (kind : error = .AlreadyClosed ∨ error = .Protocol .SendAfterClosing) :
    WroteCalmly socket (.write message) (.err error, socket)
  | flushes {op : Op} {after : WebSocket} (flushing : op = .flush ∨ (socket.state ≠ .Active ∧ ∃ code, op = .close code))
    (goesOn : ¬ (socket.role = .Server ∧ socket.state.canRead = false)) (state : after.state = socket.state) (queued : after.frameCodec.queued = socket.frameCodec.queued) :
    WroteCalmly socket op (.ok none, after)
  | shutsDown {op : Op} {after : WebSocket} (flushing : op = .flush ∨ (socket.state ≠ .Active ∧ ∃ code, op = .close code))
    (role : socket.role = .Server) (closing : socket.state.canRead = false) (state : after.state = .Terminated)
    (queued : after.frameCodec.queued = socket.frameCodec.queued) :
    WroteCalmly socket op (.err .ConnectionClosed, after)

/-- On such a stream nothing waits. -/
theorem WroteCalmly.returns {socket : WebSocket} {op : Op} {result : Reply × WebSocket}
    (calmly : WroteCalmly socket op result) : result.1 ≠ .pending := by
  cases calmly <;> intro same <;> cases same

theorem flush_calmly {socket : WebSocket} (calm : socket.frameCodec.io.Calm) {op : Op}
    (flushing : op = .flush ∨ (socket.state ≠ .Active ∧ ∃ code, op = .close code)) :
    WroteCalmly socket op (asUnitReply (flush socket)) := by
  by_cases closing : socket.role = .Server ∧ ¬ socket.state.canRead = true
  · have closed := FrameCodec.use_calm calm .close
    have run : flush socket = (.err .ConnectionClosed,
        { socket with state := .Terminated, frameCodec := socket.frameCodec.close.2 }) := by
      have ok : socket.frameCodec.close = (.ok (), socket.frameCodec.close.2) := Prod.ext closed.returned rfl
      rw [flush, if_pos closing, onCodec]
      show Lib.andThen ((socket.frameCodec.close).map id _) _ = _
      rw [ok]
      rfl
    rw [run]
    exact .shutsDown flushing closing.1 (by simpa using closing.2) rfl (closed.queued.trans (List.append_nil _))
  · have flushed := (FrameCodec.flush_calm calm).1
    have run : flush socket = (.ok (), { socket with frameCodec := socket.frameCodec.flush.2 }) := by
      have ok : socket.frameCodec.flush = (.ok (), socket.frameCodec.flush.2) := Prod.ext flushed.returned rfl
      rw [flush, if_neg closing, onCodec, ok]
      rfl
    rw [run]
    exact .flushes flushing (by simpa using closing) rfl (flushed.queued.trans (List.append_nil _))

theorem close_calmly {socket : WebSocket} (calm : socket.frameCodec.io.Calm) (active : socket.state = .Active)
    {op : Op} {code : Option CloseFrame} (asked : closeAsked op = some code) :
    WroteCalmly socket op (asUnitReply (close code socket)) := by
  have ran := close_ran code active
  have calmly := FrameCodec.useAll_calm calm [.send (outgoing (Frame.close code) socket), .flush]
  have returned := ran.returned.mpr calmly.returned
  have queued := calmly.queued
  rw [← ran.codec] at queued
  rw [show close code socket = (.ok (), (close code socket).2) from Prod.ext returned rfl]
  exact .closes active asked ran.state queued

/-- Every operation but those that read or set the configuration. -/
theorem step_calmly (target : Target) {socket : WebSocket} {call : Call} (calm : call.Calm)
    (notRead : call.op ≠ .read) (kept : ∀ setFunc, call.op ≠ .setConfig setFunc) :
    WroteCalmly (install call socket) call.op (WebSocket.step target socket call) := by
  have ready := calm.installed socket
  rw [WebSocket.step]
  generalize install call socket = socket at ready ⊢
  cases op : call.op with
  | read => exact absurd op notRead
  | setConfig setFunc => exact absurd op (kept setFunc)
  | flush => exact flush_calmly ready (.inl rfl)
  | close code =>
    show WroteCalmly socket (.close code) (asUnitReply (close code socket))
    by_cases active : socket.state = .Active
    · exact close_calmly ready active rfl
    · rw [close, if_neg active, Lib.andThen_ok]
      exact flush_calmly ready (.inr ⟨active, code, rfl⟩)
  | write message =>
    show WroteCalmly socket (.write message) (asUnitReply (write message socket))
    by_cases active : socket.state = .Active
    · cases made : frameOf message with
      | some frame =>
        have ran := writeFrame_ran frame socket
        have calmly := FrameCodec.useAll_calm ready [.send (outgoing frame socket)]
        have returned := ran.returned.mpr calmly.returned
        have queued := calmly.queued
        rw [← ran.codec] at queued
        rw [write_of_frame active made,
          show writeFrame frame socket = (.ok (), (writeFrame frame socket).2) from Prod.ext returned rfl]
        exact .sends active made (ran.state.trans active) queued
      | none =>
        cases message with
        | Close code =>
          rw [write, if_neg (by rw [active]; decide), if_neg (by rw [active]; exact not_not_intro rfl)]
          exact close_calmly ready active rfl
        | _ => cases made
    · have written := write_written message socket
      generalize write message socket = result at written ⊢
      cases written with
      | terminated => exact .refuses active (.inl rfl)
      | refused => exact .refuses active (.inr rfl)
      | closes isActive => exact absurd isActive active
      | framed isActive => exact absurd isActive active

/-- An end in concord has no fragments of a message. -/
theorem Stands.nothing_pending {role : Role} {config : WebSocketConfig} {socket : WebSocket}
    (stands : Stands role config socket) : socket.pending = none := by
  rw [WebSocket.pending, stands.whole]
  rfl

/-! ## Turns that read -/

/-- The frames of the answer carry the answer. -/
theorem carries_replyTo (state : WebSocketState) (message : Message) (socket : WebSocket) :
    (FrameCodec.sends (replyUses (replyTo state (some message)) socket)).map Frame.carries =
      ((if state.isActive then message.answer else none).map Message.onWire).toList.map some := by
  cases active : state.isActive with
  | false =>
    have quiet : state ≠ .Active := by
      rintro rfl
      cases active
    rw [replyTo_inactive quiet]
    rfl
  | true =>
    cases message with
    | Close code => simp [replyTo, active, replyUses, FrameCodec.sends, Message.answer, carries_close]
    | Ping data =>
      simp [replyTo, active, replyUses, FrameCodec.sends, Message.answer]
      rfl
    | Text | Binary | Pong | Frame => rfl

/-- What a read comes to, in front of the frames that the other end has queued: it takes the first of them, or leaves
all of them where they are. -/
inductive ReadCalmly (socket : WebSocket) (behind ahead : List Frame) : Reply × WebSocket → Prop
  | takes {frame : Frame} {later answers : List Frame} {message : Message} {after : WebSocket}
    (first : ahead = frame :: later) (carries : frame.carries = some message)
    (between : Between after.frameCodec.inner (behind ++ [frame]) later)
    (state : after.state = stateAfter socket.state (some (message.passedOn (!socket.state.isActive))))
    (sees : (∃ other ∈ behind ++ [frame], other.closes = true) ↔ after.state.canRead = false)
    (queued : after.frameCodec.queued = socket.frameCodec.queued ++ answers)
    (answered : answers.map Frame.carries =
      ((if socket.state.isActive then (message.passedOn (!socket.state.isActive)).answer else none).map
        Message.onWire).toList.map some) :
    ReadCalmly socket behind ahead (.ok (some (message.passedOn (!socket.state.isActive))), after)
  | ends {error : Error} {after : FramedRead} {state : WebSocketState} (between : Between after behind ahead)
    (closing : socket.state.canRead = false) (kind : error = .AlreadyClosed ∨ error = .ConnectionClosed)
    (moved : state = socket.state ∨ state = .Terminated) :
    ReadCalmly socket behind ahead (.err error, { socket.withReader after with state })

section Reading

variable {width peerWidth : PointerWidth} {role : Role} {config peerConfig : WebSocketConfig}
  {socket peer : WebSocket} {messages : List Message} {behind ahead : List Frame}

/-- The message in the first of the frames is returned, and answered on a stream that does what it is asked. -/
theorem delivered_readCalmly (calm : socket.frameCodec.io.Calm) {frame : Frame} {later : List Frame} {message : Message}
    {after : FramedRead} {incomplete : Option IncompleteMessage} (first : ahead = frame :: later)
    (carries : frame.carries = some message) (between : Between after (behind ++ [frame]) later)
    (sees : (∃ other ∈ behind ++ [frame], other.closes = true) ↔
      (stateAfter socket.state (some (message.passedOn (!socket.state.isActive)))).canRead = false) :
    ReadCalmly socket behind ahead
      (Lib.andThen (autoSend (replyTo socket.state (some (message.passedOn (!socket.state.isActive))))
        (socket.delivered after incomplete (some (message.passedOn (!socket.state.isActive)))))
        fun _ last => (.ok (some (message.passedOn (!socket.state.isActive))), last)) := by
  generalize returned : message.passedOn (!socket.state.isActive) = passed
  have ready : (socket.delivered after incomplete (some passed)).frameCodec.io.Calm := calm
  have ran := autoSend_ran (replyTo socket.state (some passed)) (socket.delivered after incomplete (some passed))
  have queued := (FrameCodec.useAll_calm ready (replyUses (replyTo socket.state (some passed))
    (socket.delivered after incomplete (some passed)))).queued
  rw [← ran.codec] at queued
  rw [reply_calm ready]
  subst returned
  refine .takes first carries ?_ ran.state ?_ queued (carries_replyTo _ _ _)
  · rw [ran.inner]
    exact between
  · rw [ran.state]
    exact sees

/-- The last round of a read. -/
theorem rounded_readCalmly (stands : Stands role config socket)
    (receives : Receives socket peer messages behind ahead) (sends : Sends width config peer)
    (peerRole : peer.role = role.other) (calm : socket.frameCodec.io.Calm)
    (fromWire : FromWire socket.frameCodec.inner.script) (unfailing : Unfailing socket.frameCodec.inner.script)
    (running : socket.state ≠ .Terminated) {result : Reply × WebSocket}
    (rounded : Rounded (.unlimited width) socket result) (returns : result.1 ≠ .pending)
    (pipe : result.2.frameCodec.inner.received <+: peer.frameCodec.io.accepted)
    (ended : .eof ∈ socket.frameCodec.inner.script → peer.state = .Terminated ∧
      result.2.frameCodec.inner.received = peer.frameCodec.io.accepted ∧ result.2.frameCodec.inner.Drained width) :
    ReadCalmly socket behind ahead result := by
  have sendable := receives.sendable sends peerRole
  have came := receives.came stands sends peerRole fromWire unfailing (rounded.next_returns returns)
    (rounded.inner ▸ pipe)
  -- what the reader does is known: the stream may end, but it does not fail
  cases rounded with
  | waits next | panics next =>
    rw [next] at came
    cases came
  | failed next | refused _ next =>
    rw [next] at came
    exact absurd came (receives.not_torn stands sends peerRole ended)
  | @eof after next same =>
    rw [next] at came
    cases came with
    | eof asked between same =>
      obtain ⟨terminated, whole, drained⟩ := ended asked
      have closing := receives.closing_at_eof stands sends peerRole running terminated between same whole drained
      refine .ends between closing ?_ (.inr rfl)
      cases state : socket.state with
      | Active | ClosedByUs =>
        rw [state] at closing
        cases closing
      | ClosedByPeer | CloseAcknowledged => exact .inr rfl
      | Terminated => exact absurd state running
  | closed closed next grown =>
    rw [next] at came
    cases came with
    | frame first between same =>
      have nothing := sends.nothing_behind receives.queued ((receives.sees running).mpr closed)
      rw [nothing] at first
      cases first
  | rejected canRead next grown notAllowed refused =>
    rw [next] at came
    cases came with
    | @frame frame later _ first between same =>
      have allowed := (sendable frame (by rw [first]; exact List.mem_cons_self)).allowed
        (socket.rules (.unlimited width)) (stands.sameRole.trans role.other_other.symm)
        (congrArg WebSocketConfig.maxMessageSize stands.sameConfig)
      rw [stands.nothing_pending] at notAllowed
      exact absurd allowed notAllowed
  | @accepted arrived after delivered incomplete canRead next grown shorter allowed delivers pending wellFormed =>
    rw [next] at came
    cases came with
    | @frame frame later _ first between same =>
      have sent := sendable frame (by rw [first]; exact List.mem_cons_self)
      have ours : (socket.rules (.unlimited width)).role = role.other.other :=
        stands.sameRole.trans role.other_other.symm
      have limit : (socket.rules (.unlimited width)).maxMessageSize = config.maxMessageSize :=
        congrArg WebSocketConfig.maxMessageSize stands.sameConfig
      obtain ⟨message, carries, reassembled⟩ := sent.carries ours limit
      obtain ⟨other, sameMessage, content, closes⟩ := stands.delivers sent
      rw [stands.nothing_pending, reassembled] at delivers sameMessage
      obtain rfl : message.passedOn (!socket.state.isActive) = other :=
        Option.some.inj (congrArg Prod.fst sameMessage)
      have whole : delivered = some (message.passedOn (!socket.state.isActive)) := delivers
      subst whole
      exact delivered_readCalmly calm first carries between (receives.sees_next running canRead closes)

theorem step_readCalmly (wellFormed : socket.WellFormed) (stands : Stands role config socket)
    (receives : Receives socket peer messages behind ahead) (sends : Sends width config peer)
    (peerRole : peer.role = role.other) {call : Call} (reads : call.op = .read) (calm : call.Calm)
    (returns : (WebSocket.step (.unlimited width) socket call).1 ≠ .pending) (fromWire : FromWire call.reader)
    (unfailing : Unfailing call.reader)
    (pipe : (WebSocket.step (.unlimited width) socket call).2.frameCodec.inner.received <+:
      peer.frameCodec.io.accepted)
    (ended : .eof ∈ call.reader → peer.state = .Terminated ∧
      (WebSocket.step (.unlimited width) socket call).2.frameCodec.inner.received = peer.frameCodec.io.accepted ∧
      (WebSocket.step (.unlimited width) socket call).2.frameCodec.inner.Drained width) :
    ReadCalmly (install call socket) behind ahead (WebSocket.step (.unlimited width) socket call) := by
  have stepped := step_stepped (.unlimited width) wellFormed call
  have ready : Stands role config (install call socket) :=
    ⟨stands.sameRole, stands.sameConfig, stands.whole, stands.decoder⟩
  have before : Receives (install call socket) peer messages behind ahead :=
    ⟨receives.queued, receives.between.congr rfl rfl rfl rfl, receives.part, receives.messages, receives.sees⟩
  rw [reads] at stepped
  generalize WebSocket.step (.unlimited width) socket call = result at stepped returns pipe ended ⊢
  cases stepped with
  | terminated state =>
    have closing : (install call socket).state.canRead = false := by
      rw [state]
      rfl
    exact .ends before.between closing (.inl rfl) (.inl rfl)
  | closing state role closed => exact .ends before.between closed (.inr rfl) (.inr rfl)
  | read running mayRead silent lastWellFormed rounded =>
    obtain rfl := silent_eq ready before sends peerRole fromWire unfailing silent (rounded.received.trans pipe)
    exact rounded_readCalmly ready before sends peerRole (calm.installed socket) fromWire unfailing running rounded
      returns pipe ended

end Reading

/-! ## Both ends -/

/-- What an end has to do with the queues: the other end has queued the frames of the messages that are under way behind
those that have been taken. -/
structure InLink (link : Link) (network : Network) (role : Role) : Prop where
  closed : link.closed role = !(network role).state.isActive
  taken : ∃ behind ahead, (network role.other).frameCodec.queued = behind ++ ahead ∧
    Between (network role).frameCodec.inner behind ahead ∧
    ahead.map Frame.carries = (link.underWay role.other).map some ∧
    ((∃ frame ∈ behind, frame.closes = true) ↔ (network role).state.canRead = false)

theorem InLink.isOpen {link : Link} {network : Network} {role : Role} (linked : InLink link network role)
    (active : (network role).state = .Active) : link.closed role = false := by
  rw [linked.closed, active]
  rfl

theorem InLink.isClosed {link : Link} {network : Network} {role : Role} (linked : InLink link network role)
    (inactive : (network role).state ≠ .Active) : link.closed role = true := by
  rw [linked.closed]
  cases state : (network role).state with
  | Active => exact absurd state inactive
  | _ => rfl

theorem isActive_stateAfter (state : WebSocketState) (message : Message) :
    (!(stateAfter state (some message)).isActive) = (!state.isActive || message.isClose) := by
  cases message with
  | Close code => cases state <;> rfl
  | Text | Binary | Ping | Pong | Frame => exact (Bool.or_false _).symm

namespace Network

variable {width : Role → PointerWidth} {configs : Role → WebSocketConfig} {past : List ((Role × Call) × Reply)}
  {network : Network} {link next : Link} {moving : Role}

/-- An end that cannot be read any more has taken all that the other one has sent, and both have closed. -/
theorem over_of_closing (concord : ∀ role, InConcord width configs past network role)
    (linked : ∀ role, InLink link network role) {role : Role} (closing : (network role).state.canRead = false) :
    link.Over role := by
  obtain ⟨behind, ahead, queued, _, carried, sees⟩ := (linked role).taken
  have closed := sees.mpr closing
  have sends := (concord role.other).sends
  constructor
  case closed =>
    rw [(linked role).closed]
    cases state : (network role).state <;> rw [state] at closing <;> first | rfl | cases closing
  case otherClosed =>
    rw [(linked role.other).closed]
    cases active : (network role.other).state.isActive with
    | false => rfl
    | true =>
      -- an active end has queued no close frame
      obtain ⟨frame, found, closes⟩ := closed
      have isActive : (network role.other).state = .Active := by
        cases state : (network role.other).state <;> rw [state] at active <;> first | rfl | cases active
      have opens := sends.queue.active isActive frame (by rw [queued]; exact List.mem_append_left _ found)
      rw [closes] at opens
      cases opens
  case nothing =>
    rw [sends.nothing_behind queued closed] at carried
    exact List.map_eq_nil_iff.mp carried.symm

/-- An end that has taken all that an end that has closed has sent cannot be read any more. -/
theorem canRead_of_taken (concord : ∀ role, InConcord width configs past network role)
    (linked : ∀ role, InLink link network role) {role : Role} (closed : link.closed role.other = true)
    (nothing : link.underWay role.other = []) : (network role).state.canRead = false := by
  obtain ⟨_, behind, ahead, queued, _, carried, sees⟩ := linked role
  have inactive : (network role.other).state ≠ .Active := by
    intro active
    rw [(linked role.other).closed, active] at closed
    cases closed
  obtain ⟨frame, found, closes⟩ := (concord role.other).sends.closing inactive
  rw [nothing] at carried
  rw [queued, List.map_eq_nil_iff.mp carried, List.append_nil] at found
  exact sees.mp ⟨frame, found, closes⟩

/-- One end has moved, and has queued these frames. -/
theorem inLink_moved {after : WebSocket} {frames : List Frame} (waiting : InLink link network moving.other)
    (own : next.closed moving = !after.state.isActive)
    (others : next.closed moving.other = link.closed moving.other)
    (taken : ∃ behind ahead, (network moving.other).frameCodec.queued = behind ++ ahead ∧
      Between after.frameCodec.inner behind ahead ∧ ahead.map Frame.carries = (next.underWay moving.other).map some ∧
      ((∃ frame ∈ behind, frame.closes = true) ↔ after.state.canRead = false))
    (queued : after.frameCodec.queued = (network moving).frameCodec.queued ++ frames)
    (sent : (next.underWay moving).map some = (link.underWay moving).map some ++ frames.map Frame.carries)
    (role : Role) : InLink next (Function.update network moving after) role := by
  have here : Function.update network moving after moving = after := Function.update_self ..
  have there : Function.update network moving after moving.other = network moving.other :=
    Function.update_of_ne moving.other_ne ..
  have cases : role = moving ∨ role = moving.other := by cases role <;> cases moving <;> simp [Role.other]
  rcases cases with rfl | rfl
  · refine ⟨by rw [here]; exact own, ?_⟩
    rw [here, there]
    exact taken
  · obtain ⟨closed, behind, ahead, split, between, carried, sees⟩ := waiting
    rw [Role.other_other] at split carried
    refine ⟨by rw [there, others]; exact closed, behind, ahead ++ frames, ?_, ?_, ?_, ?_⟩
    · rw [Role.other_other, here, queued, split, List.append_assoc]
    · rw [there]
      exact between.more frames
    · rw [Role.other_other, List.map_append, carried, sent]
    · rw [there]
      exact sees

theorem writes_moves (concord : ∀ role, InConcord width configs past network role)
    (linked : ∀ role, InLink link network role) {call : Call} (fair : Fair width network (moving, call))
    (notRead : call.op ≠ .read) :
    ∃ next, Link.Turn ((moving, call), (step width network (moving, call)).1) link next ∧
      ∀ role, InLink next (step width network (moving, call)).2 role := by
  obtain ⟨asked, calm, _⟩ := fair
  have kept := (step_kept (.unlimited (width moving)) (concord moving).wellFormed asked notRead).1
  have fixed : ∀ setFunc, call.op ≠ .setConfig setFunc := by
    intro setFunc same
    rw [same] at asked
    exact asked
  have calmly : WroteCalmly (install call (network moving)) call.op
      (WebSocket.step (.unlimited (width moving)) (network moving) call) := step_calmly _ calm notRead fixed
  have ended : (network moving).state.canRead = false → link.Over moving := over_of_closing concord linked
  have own := linked moving
  obtain ⟨closed, behind, ahead, split, between, carried, sees⟩ := linked moving
  have stays : Between (WebSocket.step (.unlimited (width moving)) (network moving) call).2.frameCodec.inner behind
      ahead := by
    rw [kept.inner]
    exact between.congr rfl rfl rfl rfl
  unfold Link.Turn
  simp only [step]
  generalize WebSocket.step (.unlimited (width moving)) (network moving) call = result at calmly stays
  obtain ⟨op, reader, writes, flushes, shutdowns, masks⟩ := call
  dsimp only at calmly asked notRead ⊢
  cases calmly with
  | @sends message frame after active made state queued =>
    have whole : ∀ raw, message ≠ .Frame raw := by
      rintro raw rfl
      exact asked
    have notClose : message.isClose = false := by cases message <;> first | rfl | cases made
    have opened := own.isOpen active
    refine ⟨link.put moving message, .sends opened notClose, inLink_moved (linked moving.other) ?_
      (Link.put_closed_other ..) ⟨behind, ahead, split, stays, ?_, ?_⟩ queued ?_⟩
    · rw [Link.put_closed_self, opened, notClose, state]
      rfl
    · rw [Link.put_underWay_other]
      exact carried
    · rw [sees, state, show (network moving).state = .Active from active]
    · rw [Link.put_underWay_self, List.map_append]
      simp [carries_frameOf made whole]
  | @closes _ code after active asks state queued =>
    have opened := own.isOpen active
    refine ⟨link.put moving (.Close code), .closes opened asks, inLink_moved (linked moving.other) ?_
      (Link.put_closed_other ..) ⟨behind, ahead, split, stays, ?_, ?_⟩ queued ?_⟩
    · rw [Link.put_closed_self, state]
      exact Bool.or_true _
    · rw [Link.put_underWay_other]
      exact carried
    · rw [sees, state, show (network moving).state = .Active from active]
      exact Iff.rfl
    · rw [Link.put_underWay_self, List.map_append]
      simp [carries_close]
  | @refuses message error inactive kind =>
    exact ⟨link, .refuses (own.isClosed inactive) kind, inLink_moved (linked moving.other) closed rfl
      ⟨behind, ahead, split, stays, carried, sees⟩ (List.append_nil _).symm (List.append_nil _).symm⟩
  | @flushes _ after flushing goesOn state queued =>
    have notOver : ¬ link.ShutsDown moving := by
      rintro ⟨rfl, isOver⟩
      exact goesOn ⟨(concord .Server).stands.sameRole, canRead_of_taken concord linked isOver.otherClosed isOver.nothing⟩
    refine ⟨link, ?_, inLink_moved (linked moving.other) ?_ rfl ⟨behind, ahead, split, stays, carried, ?_⟩
      (queued.trans (List.append_nil _).symm) (List.append_nil _).symm⟩
    · rcases flushing with rfl | ⟨inactive, code, rfl⟩
      · exact .flushes notOver
      · exact .hasClosed (own.isClosed inactive) notOver
    · rw [closed, state]
      rfl
    · rw [sees, state]
      exact Iff.rfl
  | @shutsDown _ after flushing role closing state queued =>
    have isOver := ended closing
    have server : moving = .Server := (concord moving).stands.sameRole.symm.trans role
    refine ⟨link, .shutsDown ?_ ⟨server, isOver⟩, inLink_moved (linked moving.other) ?_ rfl
      ⟨behind, ahead, split, stays, carried, ?_⟩ (queued.trans (List.append_nil _).symm) (List.append_nil _).symm⟩
    · rcases flushing with same | ⟨_, code, same⟩
      · exact .inl same
      · exact .inr ⟨code, same⟩
    · rw [isOver.closed, state]
      rfl
    · rw [sees, state, show (network moving).state.canRead = false from closing]
      exact Iff.rfl

theorem reads_moves (concord : ∀ role, InConcord width configs past network role)
    (linked : ∀ role, InLink link network role) {call : Call} (fair : Fair width network (moving, call))
    (reads : call.op = .read) :
    ∃ next, Link.Turn ((moving, call), (step width network (moving, call)).1) link next ∧
      ∀ role, InLink next (step width network (moving, call)).2 role := by
  obtain ⟨_, calm, returns, fromWire, unfailing, pipe, ended⟩ := fair
  obtain ⟨wellFormed, stands, _, ⟨_, _, received⟩, _⟩ := concord moving
  obtain ⟨_, otherStands, otherSends, _, _⟩ := concord moving.other
  rw [Role.other_other] at otherSends
  simp only [step, Function.update_self] at pipe ended
  obtain ⟨closed, behind, ahead, split, between, carried, sees⟩ := linked moving
  have receives : Receives (network moving) (network moving.other) (behind.filterMap Frame.content) behind ahead :=
    ⟨split, between, received.part, rfl, fun _ => sees⟩
  have calmly : ReadCalmly (install call (network moving)) behind ahead
      (WebSocket.step (.unlimited (width moving)) (network moving) call) :=
    step_readCalmly wellFormed stands receives otherSends otherStands.sameRole reads calm returns fromWire
      unfailing pipe ended
  have ended : (network moving).state.canRead = false → link.Over moving := over_of_closing concord linked
  unfold Link.Turn
  simp only [step, reads]
  generalize WebSocket.step (.unlimited (width moving)) (network moving) call = result at calmly
  cases calmly with
  | @takes frame later answers message after first carries stillBetween state stillSees queued answered =>
    rw [first] at carried
    obtain ⟨message', rest, underWay, same, laterCarried⟩ := List.map_eq_cons_iff.mp carried.symm
    obtain rfl : message' = message := Option.some.inj (same.trans carries)
    have passedOn : message'.passedOn (!(network moving).state.isActive) = message'.passedOn (link.closed moving) := by
      rw [closed]
    have moves := Link.Moves.takes underWay
    rw [← passedOn] at moves
    refine ⟨link.take moving message' rest, moves, inLink_moved (linked moving.other) ?_ (Link.take_closed_other ..)
      ⟨behind ++ [frame], later, ?_, stillBetween, ?_, stillSees⟩ queued ?_⟩
    · rw [Link.take_closed_self, state, isActive_stateAfter, Message.isClose_passedOn, closed]
      rfl
    · rw [split, first, List.append_assoc]
      rfl
    · rw [Link.take_underWay_other, laterCarried]
    · rw [Link.take_underWay_self, List.map_append, answered, Link.replies, closed]
      show _ = _ ++ ((if (network moving).state.isActive then
        (message'.passedOn (!(network moving).state.isActive)).answer else none).map Message.onWire).toList.map some
      cases (network moving).state.isActive <;> rfl
  | @ends error after state stillBetween closing kind moved =>
    have isOver := ended closing
    have stillClosing : state.canRead = false := by
      rcases moved with rfl | rfl
      · exact closing
      · rfl
    refine ⟨link, .ends isOver kind, inLink_moved (linked moving.other) ?_ rfl
      ⟨behind, ahead, split, stillBetween, carried, ?_⟩ (List.append_nil _).symm (List.append_nil _).symm⟩
    · rw [isOver.closed]
      cases state <;> first | rfl | cases stillClosing
    · rw [sees, show (network moving).state.canRead = false from closing]
      exact iff_of_true rfl stillClosing

/-- Both ends are in concord, and the queues are those of the link. -/
def Linked (width : Role → PointerWidth) (configs : Role → WebSocketConfig) (network : Network) (link : Link) : Prop :=
  (∃ past, ∀ role, InConcord width configs past network role) ∧ ∀ role, InLink link network role

theorem step_refines (roomy : ∀ role, Roomy (configs role)) :
    Lib.Refines (step width) Link.Turn (Fair width) (Linked width configs) := by
  rintro network link ⟨moving, call⟩ ⟨⟨past, concord⟩, linked⟩ fair
  have goesOn := step_inConcord roomy concord fair
  by_cases reads : call.op = .read
  · obtain ⟨next, moved, stillLinked⟩ := reads_moves concord linked fair reads
    exact ⟨next, moved, ⟨_, goesOn⟩, stillLinked⟩
  · obtain ⟨next, moved, stillLinked⟩ := writes_moves concord linked fair reads
    exact ⟨next, moved, ⟨_, goesOn⟩, stillLinked⟩

theorem linked_joined (width : Role → PointerWidth) (configs : Role → Option WebSocketConfig) :
    Linked width (fun role => (configs role).getD .default) (joined configs) .new := by
  refine ⟨⟨[], inConcord_joined width configs⟩, fun role => ⟨rfl, [], [], rfl, .fresh rfl rfl rfl, rfl, ?_, nofun⟩⟩
  rintro ⟨frame, nothing, _⟩
  cases nothing

/-- **Two joined ends keep two queues of messages.**  Whatever the ends are asked in fair turns, and in whatever order,
each operation returns what `Link` allows and does to the queues what it says there. -/
theorem ends_linked (width : Role → PointerWidth) (configs : Role → Option WebSocketConfig)
    (roomy : ∀ role, Roomy ((configs role).getD .default)) (turns : List (Role × Call))
    (fair : Lib.Meets (step width) (Fair width) (joined configs) turns) :
    ∃ link, Lib.Path Link.Turn .new (Lib.trace (step width) (joined configs) turns) link ∧
      ∀ role, InLink link (Lib.final (step width) (joined configs) turns) role := by
  obtain ⟨link, path, _, linked⟩ := (step_refines roomy).path (linked_joined width configs) fair
  exact ⟨link, path, linked⟩

/-- A client sends a text, which arrives in two pieces. -/
def hello : List (Role × Call) :=
  [(.Client, ⟨.write (.Text ⟨[0x68, 0x69]⟩), [], [], [], [], [⟨1, 2, 3, 4⟩]⟩), (.Client, .reading .flush []),
    (.Server, .reading .read [.fill [0x81, 0x82, 1], .decode, .fill [2, 3, 4, 0x69, 0x6b], .decode])]

theorem hello_fair : Lib.Meets (step fun _ => .w64) (Fair fun _ => .w64) (joined fun _ => none) hello := by
  have quiet : ∀ op reader, (Call.reading op reader).Calm := fun op reader => Call.calm_of_nil rfl rfl rfl
  refine ⟨.of_bytes ⟨by decide, ?suits⟩ (Call.calm_of_nil rfl rfl rfl) (by decide) rfl (by decide),
    .of_bytes trivial (quiet _ _) (by decide) rfl (by decide), .of_bytes trivial (quiet _ _) (by decide) rfl (by decide),
    trivial⟩
  exact ⟨⟨by decide, by decide⟩, by decide⟩

theorem ends_linked_hello :
    ∃ link, Lib.Path Link.Turn .new (Lib.trace (step fun _ => .w64) (joined fun _ => none) hello) link ∧
      ∀ role, InLink link (Lib.final (step fun _ => .w64) (joined fun _ => none) hello) role :=
  ends_linked _ _ (fun _ => by decide) hello hello_fair

end Network

end MonoioTungstenite
