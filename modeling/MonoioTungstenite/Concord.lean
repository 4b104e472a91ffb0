import MonoioTungstenite.Holes
import MonoioTungstenite.Network

/-! # Neither end makes the other fail

In every run of fair turns no read refuses what has arrived, and the messages that an end returns are the first of
those that the other end has written (`ends_agree`).  Each end is in front of the frames that the other one has
queued (`Receives`), and it finds the end of the stream behind a close frame only. -/

namespace MonoioTungstenite

open Lib.Utf8 Reassembly WebSocket

@[simp] theorem Role.other_other (role : Role) : role.other.other = role := by cases role <;> rfl

theorem Role.other_ne (role : Role) : role.other ≠ role := by cases role <;> nofun

/-! ## What an end receives -/

/-- An end of this kind, with this configuration and no message in pieces. -/
structure Stands (role : Role) (config : WebSocketConfig) (socket : WebSocket) : Prop where
  sameRole : socket.role = role
  sameConfig : socket.config = config
  whole : socket.incomplete = none
  decoder : SameConfig (fromRawSocket .new role (some config)).frameCodec.inner.decoder
    socket.frameCodec.inner.decoder

/-- The decoder of an end takes what the other end may send. -/
theorem Stands.welcomes {width : PointerWidth} {role : Role} {config : WebSocketConfig} {socket : WebSocket}
    {frame : Frame} (stands : Stands role config socket) (sendable : Sendable width config role.other frame) :
    socket.frameCodec.inner.decoder.Welcomes width frame := by
  refine FrameDecoder.Welcomes.congr ?_ stands.decoder
  refine ⟨sendable.known, sendable.takes, ?_⟩
  have masked := sendable.masked
  cases role with
  | Server => exact .inl masked
  | Client => exact masked

/-- An end has taken in the first frames of those that the other end has queued, and returned their messages.  It
can be read until one of them is a close frame. -/
structure Receives (socket peer : WebSocket) (messages : List Message) (behind ahead : List Frame) : Prop where
  queued : peer.frameCodec.queued = behind ++ ahead
  between : Between socket.frameCodec.inner behind ahead
  part : socket.frameCodec.inner.received <+: peer.frameCodec.io.accepted
  messages : behind.filterMap Frame.content = messages
  sees : socket.state ≠ .Terminated → ((∃ frame ∈ behind, frame.closes = true) ↔ socket.state.canRead = false)

/-- What the other end sends meanwhile is ahead. -/
theorem Receives.more {socket peer after : WebSocket} {messages : List Message} {behind ahead frames : List Frame}
    (receives : Receives socket peer messages behind ahead) (sent : SentOut frames peer.frameCodec after.frameCodec) :
    Receives socket after messages behind (ahead ++ frames) where
  queued := by rw [sent.queued, receives.queued, List.append_assoc]
  between := receives.between.more frames
  part := receives.part.trans sent.grown
  messages := receives.messages
  sees := receives.sees

theorem Stands.kept {role : Role} {config : WebSocketConfig} {before after : WebSocket}
    (stands : Stands role config before) (kept : ReadSideKept before after) : Stands role config after := by
  refine ⟨kept.role.trans stands.sameRole, kept.config.trans stands.sameConfig, kept.incomplete.trans stands.whole, ?_⟩
  rw [kept.inner]
  exact stands.decoder

/-- An end that has only written is where it was among the frames of the other end. -/
theorem Receives.kept {before after peer : WebSocket} {messages : List Message} {behind ahead : List Frame}
    (receives : Receives before peer messages behind ahead) (kept : ReadSideKept before after)
    (moves : after.state = before.state ∨ (before.state = .Active ∧ after.state = .ClosedByUs) ∨
      after.state = .Terminated) : Receives after peer messages behind ahead := by
  constructor
  case queued => exact receives.queued
  case between =>
    rw [kept.inner]
    exact receives.between
  case part =>
    rw [kept.inner]
    exact receives.part
  case messages => exact receives.messages
  case sees =>
    intro running
    rcases moves with same | ⟨active, closing⟩ | terminated
    · rw [same] at running ⊢
      exact receives.sees running
    · have sees := receives.sees (by rw [active]; nofun)
      rw [active] at sees
      rw [closing]
      exact sees
    · exact absurd terminated running

/-! ## Replies -/

theorem closeBody_closeAnswer {payload : List UInt8} (body : CloseBody payload) : CloseBody (closeAnswer payload) := by
  match payload with
  | [] | [_] => exact .inl rfl
  | high :: low :: reason =>
    rw [closeAnswer]
    cases (CloseCode.ofU16 (UInt16.ofNat (Lib.ofBe [high, low]))).isAllowed with
    | true => exact body
    | false =>
      rw [if_neg Bool.false_ne_true]
      exact .inr ⟨by decide, by decide⟩

/-- An answer is a control frame that every end allows. -/
theorem answerTo_control {role : Role} {state : WebSocketState} {frame answer : Frame}
    (owed : answerTo role state frame = some answer) :
    ∃ control payload, answer = automatic control payload ∧ ControlAllowed control true payload := by
  unfold answerTo at owed
  split at owed
  next =>
    split at owed
    next =>
      split at owed
      next allowed =>
        cases owed
        exact ⟨.Pong, frame.payload, rfl, rfl, allowed.2.1, trivial⟩
      next => cases owed
    next =>
      split at owed
      next allowed =>
        cases owed
        exact ⟨.Close, closeAnswer frame.payload, rfl, rfl, length_closeAnswer allowed.2.1,
          closeBody_closeAnswer allowed.2.2⟩
      next => cases owed
    next => cases owed
  next => cases owed

/-- The reply to a message that may have been sent to an end is one that the end may send. -/
theorem reply_queues {width : PointerWidth} {config : WebSocketConfig} (roomy : Roomy config) {socket : WebSocket}
    (calm : socket.frameCodec.io.Calm) (canRead : socket.state.canRead = true) {reader : FramedRead}
    {incomplete : Option IncompleteMessage} {message : Message} {frame : Frame}
    (owed : answerTo socket.role socket.state frame = replyTo socket.state (some message)) :
    ∃ frames,
      SentOut frames socket.frameCodec
        (autoSend (replyTo socket.state (some message))
          (socket.delivered reader incomplete (some message))).2.frameCodec ∧
      Queues width config socket (autoSend (replyTo socket.state (some message))
        (socket.delivered reader incomplete (some message))).2 frames ∧
      frames.filterMap Frame.content = [] := by
  have sent := autoSend_ran (replyTo socket.state (some message)) (socket.delivered reader incomplete (some message))
  have state := sent.state
  have performs := performs_of_eq sent.codec
  have ready : (socket.delivered reader incomplete (some message)).frameCodec.io.Calm := calm
  have out := performs.sentOut ready
  generalize autoSend (replyTo socket.state (some message)) (socket.delivered reader incomplete (some message)) =
    result at state performs out ⊢
  change result.2.state = stateAfter socket.state (some message) at state
  -- the answer is of a kind that the other end takes; after a close frame there is none
  by_cases active : socket.state = .Active
  · rw [active] at owed state performs out
    have allowed : ∀ reply, replyTo .Active (some message) = some reply →
        Sendable width config socket.role (outgoing reply socket) := by
      intro reply replies
      rw [replies] at owed
      obtain ⟨control, payload, rfl, allowed⟩ := answerTo_control owed
      exact sendable_control roomy allowed
    match message with
    | .Ping data =>
      refine ⟨[_], ⟨out.queued, out.wire, out.grown⟩, .goesOn (allowed _ rfl) ?_ active state, ?_⟩
      · rw [outgoing_closes, Frame.closes_of_opcode (show _ = OpCode.Control .Pong from rfl)]
        decide
      · rw [List.filterMap_cons, content_outgoing]
        rfl
    | .Close code =>
      have flushed := @WebSocket.Performs.flushed [_] _ _ _ performs ready (.inl rfl)
      refine ⟨[_], ⟨out.queued, out.wire, out.grown⟩, .closes (allowed _ rfl) ?_ active ?_ flushed, ?_⟩
      · rw [outgoing_closes, Frame.closes_of_opcode (show _ = OpCode.Control .Close by cases code <;> rfl)]
        decide
      · rw [state]
        nofun
      · rw [List.filterMap_cons, content_outgoing]
        cases code <;> rfl
    | .Text _ | .Binary _ | .Pong _ | .Frame _ =>
      exact ⟨[], ⟨out.queued, out.wire, out.grown⟩, .nothing (by rw [state, active]; exact Iff.rfl), rfl⟩
  · rw [replyTo_inactive active] at performs out
    refine ⟨[], ⟨out.queued, out.wire, out.grown⟩, .nothing ?_, rfl⟩
    have forward := Forward.stateAfter canRead (some message)
    rw [state]
    constructor
    · intro still
      rw [still] at forward
      exact forward.active
    · exact fun same => absurd same active

/-! ## Reading -/

section Reading

/-- What a read comes to at an end that has received these messages: it refuses nothing, and sends what the other
end takes. -/
structure ReadsOn (role : Role) (config peerConfig : WebSocketConfig) (peerWidth : PointerWidth) (peer : WebSocket)
    (messages : List Message) (before : WebSocket) (result : Reply × WebSocket) : Prop where
  noRefusal : ∀ error, result.1 = .err error → ¬ Refusal error
  stands : Stands role config result.2
  receives : ∃ behind ahead, Receives result.2 peer (messages ++ (returnedBy result.1).toList) behind ahead
  sends : ∃ frames, SentOut frames before.frameCodec result.2.frameCodec ∧
    Queues peerWidth peerConfig before result.2 frames ∧ frames.filterMap Frame.content = []

variable {width peerWidth : PointerWidth} {role : Role} {config peerConfig : WebSocketConfig}
  {socket peer : WebSocket} {messages : List Message} {behind ahead : List Frame}

/-- A read without a message, after which the end can be read as before or is terminated. -/
theorem readsOn_quiet (stands : Stands role config socket) (receives : Receives socket peer messages behind ahead)
    {reply : Reply} (noMessage : returnedBy reply = none) (noRefusal : ∀ error, reply = .err error → ¬ Refusal error)
    {after : FramedRead} (between : Between after behind ahead)
    (same : SameConfig socket.frameCodec.inner.decoder after.decoder)
    (part : after.received <+: peer.frameCodec.io.accepted) {state : WebSocketState}
    (moved : state = socket.state ∨ (state = .Terminated ∧ socket.state ≠ .Active)) :
    ReadsOn role config peerConfig peerWidth peer messages socket (reply, { socket.withReader after with state }) := by
  constructor
  case noRefusal => exact noRefusal
  case stands => exact ⟨stands.sameRole, stands.sameConfig, stands.whole, stands.decoder.trans same⟩
  case receives =>
    refine ⟨behind, ahead, receives.queued, between, part, ?_, ?_⟩
    · rw [noMessage]
      exact receives.messages.trans (List.append_nil _).symm
    · intro running
      rcases moved with rfl | ⟨terminated, _⟩
      · exact receives.sees running
      · exact absurd terminated running
  case sends =>
    refine ⟨[], ⟨(List.append_nil _).symm, (List.append_nil _).symm, List.prefix_refl _⟩, .nothing ?_, rfl⟩
    rcases moved with rfl | ⟨rfl, inactive⟩
    · exact Iff.rfl
    · exact ⟨nofun, fun active => absurd active inactive⟩

/-- What is ahead is of the kind that the other end sends. -/
theorem Receives.sendable (receives : Receives socket peer messages behind ahead) (sends : Sends width config peer)
    (peerRole : peer.role = role.other) : ∀ frame ∈ ahead, Sendable width config role.other frame := by
  intro frame found
  rw [← peerRole]
  apply sends.sendable frame
  rw [receives.queued]
  exact List.mem_append_right _ found

/-- What comes out of the reader is the next frame, or nothing. -/
theorem Receives.came (receives : Receives socket peer messages behind ahead) (stands : Stands role config socket)
    (sends : Sends width config peer) (peerRole : peer.role = role.other)
    (fromWire : FromWire socket.frameCodec.inner.script) (unfailing : Unfailing socket.frameCodec.inner.script)
    (returns : (FramedRead.next (.unlimited width) socket.frameCodec.inner).1 ≠ .pending)
    (pipe : (FramedRead.next (.unlimited width) socket.frameCodec.inner).2.received <+:
      peer.frameCodec.io.accepted) :
    CameBetween socket.frameCodec.inner behind ahead
      (FramedRead.next (.unlimited width) socket.frameCodec.inner) := by
  refine FramedRead.next_between width fromWire unfailing receives.between ?_ returns ?_
  · rw [← receives.queued]
    exact pipe.trans sends.accepted_prefix
  · exact fun frame found => stands.welcomes (receives.sendable sends peerRole frame found)

/-- An end that stands like this makes a message of every frame for it. -/
theorem Stands.delivers (stands : Stands role config socket) {frame : Frame}
    (sendable : Sendable width config role.other frame) :
    ∃ message, next (socket.rules (.unlimited width)) socket.pending frame.unmasked = (some message, none) ∧
      (some message).filter Message.isContent = frame.content ∧
      ((∃ code, message = .Close code) ↔ frame.closes = true) := by
  rw [show socket.pending = none by rw [WebSocket.pending, stands.whole]; rfl]
  exact sendable.delivers (stands.sameRole.trans role.other_other.symm)
    (congrArg WebSocketConfig.maxMessageSize stands.sameConfig)

/-- At the end of the stream of an end that has terminated everything has come out. -/
theorem Receives.nothing_at_eof (receives : Receives socket peer messages behind ahead)
    (stands : Stands role config socket) (sends : Sends width config peer) (peerRole : peer.role = role.other)
    (terminated : peer.state = .Terminated) {after : FramedRead} (between : Between after behind ahead)
    (same : SameConfig socket.frameCodec.inner.decoder after.decoder)
    (whole : after.received = peer.frameCodec.io.accepted) (drained : after.Drained width) :
    ahead = [] ∧ after.buffer = [] := by
  have all : after.received = encodeAll (behind ++ ahead) := by
    rw [whole, ← receives.queued]
    refine sends.all_out ?_
    rw [terminated]
    nofun
  obtain rfl : ahead = [] := between.nothing_ahead all drained fun frame found =>
    (stands.welcomes (receives.sendable sends peerRole frame found)).congr same
  rw [List.append_nil] at all
  exact ⟨rfl, (between.emptied (all ▸ List.prefix_refl _)).2⟩

/-- So no bytes are left over there, and the reader returns no error. -/
theorem Receives.not_torn (receives : Receives socket peer messages behind ahead) (stands : Stands role config socket)
    (sends : Sends width config peer) (peerRole : peer.role = role.other) {error : Error} {after : FramedRead}
    (ended : .eof ∈ socket.frameCodec.inner.script → peer.state = .Terminated ∧
      after.received = peer.frameCodec.io.accepted ∧ after.Drained width) :
    ¬ CameBetween socket.frameCodec.inner behind ahead (.err error, after) := by
  intro came
  cases came with
  | torn asked between same leftover =>
    obtain ⟨terminated, whole, drained⟩ := ended asked
    exact leftover (receives.nothing_at_eof stands sends peerRole terminated between same whole drained).2

/-- The close frame has come out too. -/
theorem Receives.closing_at_eof (receives : Receives socket peer messages behind ahead)
    (stands : Stands role config socket) (sends : Sends width config peer) (peerRole : peer.role = role.other)
    (running : socket.state ≠ .Terminated) (terminated : peer.state = .Terminated) {after : FramedRead}
    (between : Between after behind ahead) (same : SameConfig socket.frameCodec.inner.decoder after.decoder)
    (whole : after.received = peer.frameCodec.io.accepted) (drained : after.Drained width) :
    socket.state.canRead = false := by
  have inactive : peer.state ≠ .Active := by
    rw [terminated]
    nofun
  have nothing := (receives.nothing_at_eof stands sends peerRole terminated between same whole drained).1
  have closed := sends.closing inactive
  rw [receives.queued, nothing, List.append_nil] at closed
  exact (receives.sees running).mp closed

/-- A close frame is the one that stops an end from being read. -/
theorem Receives.sees_next (receives : Receives socket peer messages behind ahead)
    (running : socket.state ≠ .Terminated) (canRead : socket.state.canRead = true) {frame : Frame} {message : Message}
    (closes : (∃ code, message = .Close code) ↔ frame.closes = true) :
    (∃ other ∈ behind ++ [frame], other.closes = true) ↔
      (stateAfter socket.state (some message)).canRead = false := by
  have none : ¬ ∃ frame ∈ behind, frame.closes = true := by
    rw [receives.sees running, canRead]
    exact Bool.true_eq_false.mp
  have only : (∃ other ∈ behind ++ [frame], other.closes = true) ↔ frame.closes = true := by
    simp only [List.mem_append, List.mem_singleton]
    constructor
    · rintro ⟨other, old | rfl, closing⟩
      · exact absurd ⟨other, old, closing⟩ none
      · exact closing
    · exact fun closing => ⟨frame, .inr rfl, closing⟩
  rw [only, ← closes]
  constructor
  · rintro ⟨code, rfl⟩
    exact stateAfter_close _ _
  · intro closing
    match message with
    | .Close code => exact ⟨code, rfl⟩
    | .Text _ | .Binary _ | .Ping _ | .Pong _ | .Frame _ =>
      rw [show stateAfter socket.state _ = socket.state from rfl, canRead] at closing
      cases closing

/-- A frame that has come out, with its message. -/
theorem Receives.further (receives : Receives socket peer messages behind ahead) (running : socket.state ≠ .Terminated)
    (canRead : socket.state.canRead = true) {frame : Frame} {later : List Frame} (first : ahead = frame :: later)
    {after : FramedRead} (between : Between after (behind ++ [frame]) later) {message : Message}
    (content : (some message).filter Message.isContent = frame.content)
    (closes : (∃ code, message = .Close code) ↔ frame.closes = true)
    (part : after.received <+: peer.frameCodec.io.accepted) (incomplete : Option IncompleteMessage) :
    Receives (socket.delivered after incomplete (some message)) peer
      (messages ++ (returnedBy (.ok (some message))).toList) (behind ++ [frame]) later := by
  refine ⟨?_, between, part, ?_, fun _ => receives.sees_next running canRead closes⟩
  · rw [receives.queued, first, List.append_assoc]
    rfl
  · rw [List.filterMap_append, receives.messages, List.filterMap_cons, ← content]
    cases message <;> rfl

/-- The stream has ended behind a close frame. -/
theorem readsOn_eof (stands : Stands role config socket) (receives : Receives socket peer messages behind ahead)
    (running : socket.state ≠ .Terminated) {after : FramedRead} (between : Between after behind ahead)
    (same : SameConfig socket.frameCodec.inner.decoder after.decoder)
    (part : after.received <+: peer.frameCodec.io.accepted) (closing : socket.state.canRead = false) :
    ReadsOn role config peerConfig peerWidth peer messages socket
      (.err (eofError socket.state), { socket.withReader after with state := .Terminated }) := by
  refine readsOn_quiet stands receives rfl ?_ between same part (.inr ⟨rfl, ?_⟩)
  · intro error failed
    cases failed
    cases state : socket.state with
    | Active | ClosedByUs =>
      rw [state] at closing
      cases closing
    | ClosedByPeer | CloseAcknowledged => exact not_false
    | Terminated => exact absurd state running
  · intro active
    rw [active] at closing
    cases closing

/-- A frame has come out, and its message is returned behind the reply that it asks for. -/
theorem readsOn_delivered (roomy : Roomy peerConfig) (stands : Stands role config socket)
    (receives : Receives socket peer messages behind ahead) (calm : socket.frameCodec.io.Calm)
    (running : socket.state ≠ .Terminated) (canRead : socket.state.canRead = true) {frame : Frame}
    {later : List Frame} (first : ahead = frame :: later) {after : FramedRead}
    (between : Between after (behind ++ [frame]) later)
    (same : SameConfig socket.frameCodec.inner.decoder after.decoder) {message : Message}
    (content : (some message).filter Message.isContent = frame.content)
    (closes : (∃ code, message = .Close code) ↔ frame.closes = true) {incomplete : Option IncompleteMessage}
    (whole : incomplete = none) {arrived : Frame}
    (owed : answerTo socket.role socket.state arrived = replyTo socket.state (some message))
    (pipe : (Lib.andThen (autoSend (replyTo socket.state (some message))
      (socket.delivered after incomplete (some message))) fun _ socket =>
        ((.ok (some message) : Reply), socket)).2.frameCodec.inner.received <+: peer.frameCodec.io.accepted) :
    ReadsOn role config peerConfig peerWidth peer messages socket
      (Lib.andThen (autoSend (replyTo socket.state (some message)) (socket.delivered after incomplete (some message)))
        fun _ socket => (.ok (some message), socket)) := by
  rw [reply_calm (show (socket.delivered after incomplete (some message)).frameCodec.io.Calm from calm)] at pipe ⊢
  have writes := autoSend_writesOnly (replyTo socket.state (some message))
    (socket.delivered after incomplete (some message))
  have stillStands : Stands role config (socket.delivered after incomplete (some message)) :=
    ⟨stands.sameRole, stands.sameConfig, whole, stands.decoder.trans same⟩
  rw [writes.inner] at pipe
  have further := receives.further running canRead first between content closes pipe incomplete
  constructor
  case noRefusal =>
    intro error failed
    cases failed
  case stands => exact stillStands.kept writes.toReadSideKept
  case receives => exact ⟨_, _, further.kept writes.toReadSideKept (.inl writes.state)⟩
  case sends => exact reply_queues roomy calm canRead owed

/-- The last round of a read. -/
theorem rounded_readsOn (roomy : Roomy peerConfig) (stands : Stands role config socket)
    (receives : Receives socket peer messages behind ahead) (sends : Sends width config peer)
    (peerRole : peer.role = role.other) (calm : socket.frameCodec.io.Calm)
    (fromWire : FromWire socket.frameCodec.inner.script) (unfailing : Unfailing socket.frameCodec.inner.script)
    (running : socket.state ≠ .Terminated) {result : Reply × WebSocket}
    (rounded : Rounded (.unlimited width) socket result) (returns : result.1 ≠ .pending)
    (pipe : result.2.frameCodec.inner.received <+: peer.frameCodec.io.accepted)
    (ended : .eof ∈ socket.frameCodec.inner.script → peer.state = .Terminated ∧
      result.2.frameCodec.inner.received = peer.frameCodec.io.accepted ∧ result.2.frameCodec.inner.Drained width) :
    ReadsOn role config peerConfig peerWidth peer messages socket result := by
  have sendable := receives.sendable sends peerRole
  have came := receives.came stands sends peerRole fromWire unfailing (rounded.next_returns returns)
    (rounded.inner ▸ pipe)
  -- what the reader does is known: the stream may end, but it does not fail
  cases rounded with
  | waits next | panics next =>
    rw [next] at came
    cases came
  | failed next | refused _ next =>
    rw [next] at came
    exact absurd came (receives.not_torn stands sends peerRole ended)
  | @eof after next same =>
    rw [next] at came
    cases came with
    | eof asked between same =>
      obtain ⟨terminated, whole, drained⟩ := ended asked
      exact readsOn_eof stands receives running between same pipe
        (receives.closing_at_eof stands sends peerRole running terminated between same whole drained)
  | closed closed next grown =>
    rw [next] at came
    cases came with
    | frame first between same =>
      have nothing := sends.nothing_behind receives.queued ((receives.sees running).mpr closed)
      rw [nothing] at first
      cases first
  | rejected canRead next grown notAllowed refused =>
    rw [next] at came
    cases came with
    | @frame frame later _ first between same =>
      have allowed := (sendable frame (by rw [first]; exact List.mem_cons_self)).allowed
        (socket.rules (.unlimited width)) (stands.sameRole.trans role.other_other.symm)
        (congrArg WebSocketConfig.maxMessageSize stands.sameConfig)
      rw [show socket.pending = none by rw [pending, stands.whole]; rfl] at notAllowed
      exact absurd allowed notAllowed
  | @accepted arrived after delivered incomplete canRead next grown shorter allowed delivers pending wellFormed =>
    rw [next] at came
    cases came with
    | @frame frame later _ first between same =>
      obtain ⟨message, next, content, closes⟩ := stands.delivers
        (sendable frame (by rw [first]; exact List.mem_cons_self))
      have owed := answerTo_allowed (show (socket.rules (.unlimited width)).active = socket.state.isActive from rfl)
        allowed
      rw [next] at delivers pending owed
      subst delivers
      exact readsOn_delivered roomy stands receives calm running canRead first between same content closes
        (Option.map_eq_none_iff.mp pending) owed pipe

/-- No frame that may be sent to an end leaves its reader in the loop of a read. -/
theorem silent_eq (stands : Stands role config socket) (receives : Receives socket peer messages behind ahead)
    (sends : Sends width config peer) (peerRole : peer.role = role.other)
    (fromWire : FromWire socket.frameCodec.inner.script) (unfailing : Unfailing socket.frameCodec.inner.script)
    {last : WebSocket} (silent : Silent (.unlimited width) socket last)
    (pipe : last.frameCodec.inner.received <+: peer.frameCodec.io.accepted) : last = socket := by
  cases silent with
  | refl => rfl
  | @step _ _ arrived after incomplete canRead next grown allowed delivers pending wellFormed rest =>
    have came := receives.came stands sends peerRole fromWire unfailing
      (by rw [next]; intro same; cases same) (by rw [next]; exact rest.received.trans pipe)
    rw [next] at came
    cases came with
    | @frame frame later _ first between same =>
      obtain ⟨message, next, _⟩ := stands.delivers
        (receives.sendable sends peerRole frame (by rw [first]; exact List.mem_cons_self))
      rw [next] at delivers
      cases delivers

/-- A turn that reads. -/
theorem step_readsOn (roomy : Roomy peerConfig) (wellFormed : socket.WellFormed) (stands : Stands role config socket)
    (receives : Receives socket peer messages behind ahead) (sends : Sends width config peer)
    (peerRole : peer.role = role.other) {call : Call} (reads : call.op = .read) (calm : call.Calm)
    (returns : (WebSocket.step (.unlimited width) socket call).1 ≠ .pending) (fromWire : FromWire call.reader)
    (unfailing : Unfailing call.reader)
    (pipe : (WebSocket.step (.unlimited width) socket call).2.frameCodec.inner.received <+:
      peer.frameCodec.io.accepted)
    (ended : .eof ∈ call.reader → peer.state = .Terminated ∧
      (WebSocket.step (.unlimited width) socket call).2.frameCodec.inner.received = peer.frameCodec.io.accepted ∧
      (WebSocket.step (.unlimited width) socket call).2.frameCodec.inner.Drained width) :
    ReadsOn role config peerConfig peerWidth peer messages (install call socket)
      (WebSocket.step (.unlimited width) socket call) := by
  have stepped := step_stepped (.unlimited width) wellFormed call
  have ready : Stands role config (install call socket) :=
    ⟨stands.sameRole, stands.sameConfig, stands.whole, stands.decoder⟩
  have before : Receives (install call socket) peer messages behind ahead :=
    ⟨receives.queued, receives.between.congr rfl rfl rfl rfl, receives.part, receives.messages, receives.sees⟩
  rw [reads] at stepped
  generalize WebSocket.step (.unlimited width) socket call = result at stepped returns pipe ended ⊢
  cases stepped with
  | terminated state =>
    refine readsOn_quiet ready before rfl ?_ before.between ⟨rfl, rfl⟩ pipe (.inl rfl)
    intro error failed
    cases failed
    exact not_false
  | closing state role closed =>
    refine readsOn_quiet ready before rfl ?_ before.between ⟨rfl, rfl⟩ pipe (.inr ⟨rfl, ?_⟩)
    · intro error failed
      cases failed
      exact not_false
    · intro active
      rw [active] at closed
      cases closed
  | read running mayRead silent lastWellFormed rounded =>
    obtain rfl := silent_eq ready before sends peerRole fromWire unfailing silent (rounded.received.trans pipe)
    exact rounded_readsOn roomy ready before sends peerRole (calm.installed socket) fromWire unfailing running rounded
      returns pipe ended

end Reading

/-! ## Turns that only write -/

/-- What belongs to reading is left alone, but for the actions that are laid out. -/
theorem step_kept (target : Target) {socket : WebSocket} (wellFormed : socket.WellFormed) {width : PointerWidth}
    {config : WebSocketConfig} {call : Call} (suits : SuitsOp width config call.op) (notRead : call.op ≠ .read) :
    ReadSideKept (install call socket) (WebSocket.step target socket call).2 ∧
      returnedBy (WebSocket.step target socket call).1 = none := by
  have silent : ∀ result : Result Unit × WebSocket, returnedBy (asUnitReply result).1 = none := by
    intro result
    obtain ⟨outcome, after⟩ := result
    cases outcome <;> rfl
  have stepped := step_stepped target wellFormed call
  generalize WebSocket.step target socket call = result at stepped ⊢
  generalize call.op = op at stepped suits notRead
  cases stepped with
  | terminated | closing | read => exact absurd rfl notRead
  | write message => exact ⟨(write_quiet message _).kept, silent _⟩
  | flush => exact ⟨(flush_quiet _).kept, silent _⟩
  | close code => exact ⟨(close_quiet code _).kept, silent _⟩
  | setConfig setFunc => exact absurd suits not_false

/-! ## Both ends -/

/-- What holds of an end after the turns that have been taken. -/
structure InConcord (width : Role → PointerWidth) (configs : Role → WebSocketConfig)
    (past : List ((Role × Call) × Reply)) (network : Network) (role : Role) : Prop where
  wellFormed : (network role).WellFormed
  stands : Stands role (configs role) (network role)
  sends : Sends (width role.other) (configs role.other) (network role)
  receives : ∃ behind ahead, Receives (network role) (network role.other) (Network.returned role past) behind ahead
  queued : (network role).frameCodec.queued.filterMap Frame.content = Network.written role past

namespace Network

theorem returned_append (role : Role) (past : List ((Role × Call) × Reply)) (turn : Role × Call) (reply : Reply) :
    returned role (past ++ [(turn, reply)]) =
      returned role past ++ (if turn.1 = role then returnedBy reply else none).toList := by
  simp only [returned, List.filterMap_append]
  congr 1

theorem written_append (role : Role) (past : List ((Role × Call) × Reply)) (turn : Role × Call) (reply : Reply) :
    written role (past ++ [(turn, reply)]) =
      written role past ++ (if turn.1 = role then writtenBy turn.2.op reply else none).toList := by
  simp only [written, List.filterMap_append]
  congr 1

variable {width : Role → PointerWidth} {configs : Role → WebSocketConfig} {past : List ((Role × Call) × Reply)}
  {network : Network}

/-- What the turn of an end does to this end. -/
structure Turned (width : Role → PointerWidth) (configs : Role → WebSocketConfig)
    (past : List ((Role × Call) × Reply)) (network : Network) (role : Role) (op : Op)
    (result : Reply × WebSocket) : Prop where
  noRefusal : op = .read → ∀ error, result.1 = .err error → ¬ Refusal error
  wellFormed : result.2.WellFormed
  stands : Stands role (configs role) result.2
  receives : ∃ behind ahead, Receives result.2 (network role.other) (returned role past ++ (returnedBy result.1).toList)
    behind ahead
  sends : ∃ frames, SentOut frames (network role).frameCodec result.2.frameCodec ∧
    Queues (width role.other) (configs role.other) (network role) result.2 frames ∧
    frames.filterMap Frame.content = (writtenBy op result.1).toList

theorem step_turned (roomy : ∀ role, Roomy (configs role)) (concord : ∀ role, InConcord width configs past network role)
    {role : Role} {call : Call} (fair : Fair width network (role, call)) :
    Turned width configs past network role call.op
      (WebSocket.step (.unlimited (width role)) (network role) call) := by
  obtain ⟨asked, calm, returns, fromWire, unfailing, pipe, ended⟩ := fair
  obtain ⟨wellFormed, stands, _, ⟨behind, ahead, receives⟩, _⟩ := concord role
  obtain ⟨_, otherStands, otherSends, _, _⟩ := concord role.other
  rw [Role.other_other] at otherSends
  simp only [step, Function.update_self] at pipe ended
  have suits : SuitsOp (width role.other) (configs role.other) call.op := by
    rw [← otherStands.sameConfig]
    exact asked
  have after := step_wellFormed (.unlimited (width role)) wellFormed call
  by_cases reads : call.op = .read
  · obtain ⟨noRefusal, stillStands, stillReceives, frames, sent, queues, nothing⟩ :=
      @step_readsOn (width role) (width role.other) role (configs role) (configs role.other) (network role)
        (network role.other) _ behind ahead (roomy role.other) wellFormed stands receives otherSends
        otherStands.sameRole call reads calm returns fromWire unfailing pipe ended
    refine ⟨fun _ => noRefusal, after, stillStands, stillReceives, frames, ⟨sent.queued, sent.wire, sent.grown⟩, ?_, ?_⟩
    · cases queues with
      | nothing same => exact .nothing same
      | goesOn sendable opens active stays => exact .goesOn sendable opens active stays
      | closes sendable closes active inactive out => exact .closes sendable closes active inactive out
    · rw [nothing, reads]
      rfl
  · obtain ⟨⟨frames, sent, queues, content⟩, moves⟩ :=
      step_writes (roomy role.other) (.unlimited (width role)) wellFormed calm suits reads
    obtain ⟨kept, silent⟩ := step_kept (.unlimited (width role)) wellFormed suits reads
    have ready : Stands role (configs role) (install call (network role)) :=
      ⟨stands.sameRole, stands.sameConfig, stands.whole, stands.decoder⟩
    have before : Receives (install call (network role)) (network role.other) (returned role past) behind ahead :=
      ⟨receives.queued, receives.between.congr rfl rfl rfl rfl, receives.part, receives.messages, receives.sees⟩
    refine ⟨fun same => absurd same reads, after, ready.kept kept, ⟨behind, ahead, ?_⟩, frames, sent, queues,
      content.symm⟩
    rw [silent, Option.toList_none, List.append_nil]
    exact before.kept kept moves

/-- A fair turn keeps both ends in concord. -/
theorem step_inConcord (roomy : ∀ role, Roomy (configs role))
    (concord : ∀ role, InConcord width configs past network role) {turn : Role × Call}
    (fair : Fair width network turn) (role : Role) :
    InConcord width configs (past ++ [(turn, (step width network turn).1)]) (step width network turn).2 role := by
  obtain ⟨moving, call⟩ := turn
  obtain ⟨_, wellFormed, stands, ⟨behind, ahead, receives⟩, frames, sent, queues, content⟩ :=
    step_turned roomy concord fair
  have here : (step width network (moving, call)).2 moving =
      (WebSocket.step (.unlimited (width moving)) (network moving) call).2 := Function.update_self ..
  have there : (step width network (moving, call)).2 moving.other = network moving.other :=
    Function.update_of_ne moving.other_ne ..
  have own := concord moving
  -- the end whose turn it is, and the one that waits
  have cases : role = moving ∨ role = moving.other := by cases role <;> cases moving <;> simp [Role.other]
  cases cases with
  | inl same =>
    subst same
    constructor
    case wellFormed => rw [here]; exact wellFormed
    case stands => rw [here]; exact stands
    case sends =>
      rw [here]
      exact own.sends.step sent queues (stands.sameRole.trans own.stands.sameRole.symm)
    case receives =>
      rw [here, there, returned_append, if_pos rfl]
      exact ⟨behind, ahead, receives⟩
    case queued =>
      rw [here, written_append, if_pos rfl, sent.queued, List.filterMap_append, own.queued, content]
      rfl
  | inr other =>
    subst other
    obtain ⟨wellFormed, stands, sends, ⟨behind, ahead, receives⟩, queued⟩ := concord moving.other
    have notMoving : ¬ moving = moving.other := fun same => moving.other_ne same.symm
    constructor
    case wellFormed => rw [there]; exact wellFormed
    case stands => rw [there]; exact stands
    case sends => rw [there]; exact sends
    case receives =>
      rw [Role.other_other] at receives ⊢
      rw [here, there, returned_append, if_neg notMoving, Option.toList_none, List.append_nil]
      exact ⟨behind, ahead ++ frames, receives.more sent⟩
    case queued =>
      rw [there, written_append, if_neg notMoving, Option.toList_none, List.append_nil]
      exact queued

/-- No read has refused what had arrived, and the messages that an end has returned are the first of those that
the other end has written. -/
structure EndsAgree (trace : List ((Role × Call) × Reply)) : Prop where
  noRefusal : ∀ turn reply, (turn, reply) ∈ trace → turn.2.op = .read → ∀ error, reply = .err error → ¬ Refusal error
  inOrder : ∀ role, returned role trace <+: written role.other trace

theorem inConcord_joined (width : Role → PointerWidth) (configs : Role → Option WebSocketConfig) (role : Role) :
    InConcord width (fun role => (configs role).getD .default) [] (joined configs) role := by
  constructor
  case wellFormed => exact fromRawSocket_wellFormed .new role (configs role)
  case stands => exact ⟨rfl, rfl, rfl, ⟨rfl, rfl⟩⟩
  case sends =>
    constructor
    case wire => rfl
    case out => exact fun inactive => absurd rfl inactive
    case queue => exact queueClosed_fromRawSocket .new role (configs role)
    case closing => exact fun inactive => absurd rfl inactive
    case sendable =>
      intro frame found
      rw [joined, fromRawSocket_queued] at found
      cases found
  case receives =>
    refine ⟨[], [], rfl, .fresh rfl rfl rfl, List.nil_prefix, rfl, fun _ => ⟨?_, nofun⟩⟩
    rintro ⟨frame, nothing, _⟩
    cases nothing
  case queued => rfl

/-- What an end has returned is the beginning of what is in the frames that the other end has queued. -/
theorem InConcord.inOrder (concord : ∀ role, InConcord width configs past network role) (role : Role) :
    returned role past <+: written role.other past := by
  obtain ⟨_, _, _, ⟨behind, ahead, receives⟩, _⟩ := concord role
  rw [← (concord role.other).queued, receives.queued, List.filterMap_append, receives.messages]
  exact List.prefix_append ..

/-- Two joined ends never make each other fail, whatever they are asked and in whatever order. -/
theorem ends_agree (width : Role → PointerWidth) (configs : Role → Option WebSocketConfig)
    (roomy : ∀ role, Roomy ((configs role).getD .default)) (turns : List (Role × Call))
    (fair : Lib.Meets (step width) (Fair width) (joined configs) turns) :
    EndsAgree (Lib.trace (step width) (joined configs) turns) := by
  have preserved : ∀ (past : List ((Role × Call) × Reply)) (network : Network) (turn : Role × Call),
      ((∀ earlier reply, (earlier, reply) ∈ past → earlier.2.op = .read → ∀ error, reply = .err error →
          ¬ Refusal error) ∧
        ∀ role, InConcord width (fun role => (configs role).getD .default) past network role) →
      Fair width network turn →
      (∀ earlier reply, (earlier, reply) ∈ past ++ [(turn, (step width network turn).1)] → earlier.2.op = .read →
          ∀ error, reply = .err error → ¬ Refusal error) ∧
        ∀ role, InConcord width (fun role => (configs role).getD .default)
          (past ++ [(turn, (step width network turn).1)]) (step width network turn).2 role := by
    rintro past network turn ⟨noRefusal, concord⟩ fair
    refine ⟨?_, step_inConcord roomy concord fair⟩
    intro earlier reply found
    rw [List.mem_append, List.mem_singleton] at found
    cases found with
    | inl before => exact noRefusal earlier reply before
    | inr now =>
      cases now
      exact (step_turned roomy concord fair).noRefusal
  obtain ⟨noRefusal, concord⟩ := @Lib.trace_invariant _ _ _ (step width) _ _ preserved [] (joined configs) turns
    ⟨fun _ _ nothing => absurd nothing List.not_mem_nil, inConcord_joined width configs⟩ fair
  rw [List.nil_append] at noRefusal concord
  exact ⟨noRefusal, InConcord.inOrder concord⟩

/-- A client sends a text, which arrives in two pieces, and the server closes the connection. -/
def conversation : List (Role × Call) :=
  [(.Client, ⟨.write (.Text ⟨[0x68, 0x69]⟩), [], [], [], [], [⟨1, 2, 3, 4⟩]⟩),
    (.Client, .reading .flush []),
    (.Server, .reading .read [.fill [0x81, 0x82, 1], .decode, .fill [2, 3, 4, 0x69, 0x6b], .decode]),
    (.Server, .reading (.close none) []),
    (.Client, ⟨.read, [.fill [0x88, 0], .decode], [], [], [], [⟨5, 6, 7, 8⟩]⟩),
    (.Server, .reading .read [.fill [0x88, 0x80, 5, 6, 7, 8], .decode]),
    (.Server, .reading .flush []),
    (.Client, .reading .read [.eof])]

theorem ends_agree_conversation :
    EndsAgree (Lib.trace (step fun _ => .w64) (joined fun _ => none) conversation) := by
  have quiet : ∀ op reader, (Call.reading op reader).Calm := fun op reader => Call.calm_of_nil rfl rfl rfl
  refine ends_agree _ _ (fun _ => by decide) conversation
    ⟨?writes, ?flushes, ?reads, ?closes, ?answers, ?acknowledges, ?shutsDown, ?eof, trivial⟩
  case writes =>
    refine .of_bytes ⟨by decide, ?_⟩ (Call.calm_of_nil rfl rfl rfl) (by decide) rfl (by decide)
    exact ⟨⟨by decide, by decide⟩, by decide⟩
  case closes =>
    have asked : SuitsClose none := by simp [SuitsClose]
    exact .of_bytes asked (quiet _ _) (by decide) rfl (by decide)
  case answers => exact .of_bytes trivial (Call.calm_of_nil rfl rfl rfl) (by decide) rfl (by decide)
  case flushes | reads | acknowledges | shutsDown => exact .of_bytes trivial (quiet _ _) (by decide) rfl (by decide)
  case eof =>
    -- the server has shut down, and its close frame has been received
    refine ⟨trivial, quiet _ _, by decide, by simp [FromWire, Call.reading], by simp [Unfailing, Call.reading],
      by decide, fun _ => ⟨by decide, by decide, ?_⟩⟩
    intro frame some
    cases some

end Network

end MonoioTungstenite
