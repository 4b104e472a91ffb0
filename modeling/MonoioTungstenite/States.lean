import MonoioTungstenite.Texts

/-! # The state of the connection

The state only moves forward, what the code takes for impossible is impossible, and a close frame is the
last thing that is read (`states_forward`).  An operation that has returned `ConnectionClosed` has ended
the connection (`connectionClosed_terminal`), but for the two places where a read turns a reset of the
stream into `ConnectionClosed` and leaves the state as it was. -/

namespace MonoioTungstenite

open Lib.Utf8 Reassembly

/-! ## Moves of the state -/

theorem Forward.terminated {state : WebSocketState} (forward : Forward .Terminated state) :
    state = .Terminated := by
  cases forward <;> rfl

/-- A connection that is closing is not read again. -/
theorem Forward.closing {before after : WebSocketState} (forward : Forward before after)
    (closing : before.canRead = false) : after.canRead = false := by
  cases forward with
  | refl => exact closing
  | closeByUs => cases closing
  | closeByPeer => rfl
  | acknowledge => rfl
  | terminate => rfl

namespace WebSocket

theorem Silent.state_eq {target : Target} {socket last : WebSocket} (silent : Silent target socket last) :
    last.state = socket.state := by
  obtain ⟨after, incomplete, rfl⟩ := silent.keeps
  rfl

theorem Stepped.forward {target : Target} {socket : WebSocket} {op : Op} {result : Reply × WebSocket}
    (stepped : Stepped target socket op result) : Forward socket.state result.2.state := by
  cases stepped with
  | closing => exact .terminate _
  | read state reads silent wellFormed rounded =>
    have forward := rounded.forward
    rw [silent.state_eq] at forward
    exact forward
  | write message => exact (write_quiet message socket).forward
  | flush => exact (flush_quiet socket).forward
  | close code => exact (close_quiet code socket).forward
  | _ => exact .refl _

/-- A message is returned on a connection that can be read, and moves its state as it says. -/
theorem Rounded.message_state {target : Target} {socket : WebSocket} {result : Reply × WebSocket}
    {message : Message} (rounded : Rounded target socket result) (returned : result.1 = .ok (some message)) :
    socket.state.canRead = true ∧ result.2.state = stateAfter socket.state (some message) := by
  cases rounded with
  | accepted canRead came grown shorter allowed delivers pending wellFormed =>
    obtain ⟨rfl, _⟩ := reply_value returned
    exact ⟨canRead, (reply_writesOnly _ _ _).state⟩
  | _ => cases returned

theorem Stepped.message_state {target : Target} {socket : WebSocket} {op : Op} {result : Reply × WebSocket}
    {message : Message} (stepped : Stepped target socket op result) (returned : result.1 = .ok (some message)) :
    socket.state.canRead = true ∧ result.2.state = stateAfter socket.state (some message) := by
  cases stepped with
  | read state reads silent wellFormed rounded =>
    rw [← silent.state_eq]
    exact rounded.message_state returned
  | write => exact absurd returned (asUnitReply_message _ _)
  | flush => exact absurd returned (asUnitReply_message _ _)
  | close => exact absurd returned (asUnitReply_message _ _)
  | _ => cases returned

theorem stateAfter_close (state : WebSocketState) (code : Option CloseFrame) :
    (stateAfter state (some (.Close code))).canRead = false := by
  unfold stateAfter
  cases state <;> rfl

/-- In `Terminated`, reading and writing fail. -/
theorem perform_terminated (target : Target) {socket : WebSocket} (terminated : socket.state = .Terminated)
    {op : Op} (readsOrWrites : op = .read ∨ ∃ message, op = .write message) :
    perform target op socket = (.err .AlreadyClosed, socket) := by
  rcases readsOrWrites with rfl | ⟨message, rfl⟩
  · rw [perform, read, if_pos terminated]
    rfl
  · rw [perform, write.eq_def, if_pos terminated]
    rfl

theorem step_terminated (target : Target) {socket : WebSocket} (terminated : socket.state = .Terminated)
    {call : Call} (readsOrWrites : call.op = .read ∨ ∃ message, call.op = .write message) :
    (step target socket call).1 = .err .AlreadyClosed := by
  rw [step, perform_terminated target (by exact terminated) readsOrWrites]

/-! ## Runs -/

theorem reached_append (target : Target) (stream : Stream) (role : Role) (config : Option WebSocketConfig)
    (past later : List Call) : reached target stream role config (past ++ later) =
      Lib.final (step target) (reached target stream role config past) later :=
  Lib.final_append (step target) _ past later

theorem step_wellFormed (target : Target) {socket : WebSocket} (wellFormed : socket.WellFormed) (call : Call) :
    (step target socket call).2.WellFormed :=
  (step_stepped target wellFormed call).wellFormed (install_wellFormed wellFormed call)

theorem step_forward (target : Target) {socket : WebSocket} (wellFormed : socket.WellFormed) (call : Call) :
    Forward socket.state (step target socket call).2.state :=
  (step_stepped target wellFormed call).forward

theorem final_wellFormed (target : Target) {socket : WebSocket} (wellFormed : socket.WellFormed) (calls : List Call) :
    (Lib.final (step target) socket calls).WellFormed :=
  @Lib.final_preserves _ _ _ (step target) WellFormed (fun _ call holds => step_wellFormed target holds call) _ calls
    wellFormed

theorem final_role (target : Target) {socket : WebSocket} (wellFormed : socket.WellFormed) (calls : List Call) :
    (Lib.final (step target) socket calls).role = socket.role := by
  have preserved : ∀ (before : WebSocket) (call : Call), before.WellFormed ∧ before.role = socket.role →
      (step target before call).2.WellFormed ∧ (step target before call).2.role = socket.role := by
    rintro before call ⟨wellFormed, same⟩
    exact ⟨step_wellFormed target wellFormed call, (step_stepped target wellFormed call).role.trans same⟩
  exact (Lib.final_preserves preserved calls ⟨wellFormed, rfl⟩).2

/-- A property of the state that every move keeps holds along a run. -/
theorem final_state {target : Target} {holds : WebSocketState → Prop}
    (kept : ∀ before after, Forward before after → holds before → holds after) {socket : WebSocket}
    (wellFormed : socket.WellFormed) (calls : List Call) (initial : holds socket.state) :
    holds (Lib.final (step target) socket calls).state := by
  have preserved : ∀ (socket : WebSocket) (call : Call), socket.WellFormed ∧ holds socket.state →
      (step target socket call).2.WellFormed ∧ holds (step target socket call).2.state := by
    rintro socket call ⟨wellFormed, before⟩
    exact ⟨step_wellFormed target wellFormed call, kept _ _ (step_forward target wellFormed call) before⟩
  exact (@Lib.final_preserves _ _ _ (step target) (fun socket : WebSocket => socket.WellFormed ∧ holds socket.state)
    preserved socket calls ⟨wellFormed, initial⟩).2

/-- The state of the connection only moves forward, and a terminated connection is neither read nor
written.  Where allocation succeeds nothing panics, so that no branch taken for impossible is reached.
Once a read has returned a close frame, no later one returns a message. -/
theorem states_forward (width : PointerWidth) (stream : Stream) (role : Role) (config : Option WebSocketConfig)
    (calls : List Call) (call : Call) :
    let target := Target.unlimited width
    let socket := reached target stream role config calls
    let result := step target socket call
    Forward socket.state result.2.state ∧
    (socket.state = .Terminated → (call.op = .read ∨ ∃ message, call.op = .write message) →
      result.1 = .err .AlreadyClosed) ∧
    (∀ site, result.1 ≠ .panic site) ∧
    (∀ past closing later code, calls = past ++ closing :: later →
      (step target (reached target stream role config past) closing).1 = .ok (some (.Close code)) →
      ∀ message, result.1 ≠ .ok (some message)) := by
  intro target socket result
  have wellFormed := reached_wellFormed target stream role config calls
  have stepped := step_stepped target wellFormed call
  refine ⟨stepped.forward, fun terminated => step_terminated target terminated, ?_, ?_⟩
  · intro site panicked
    exact (stepped.panic panicked).2 rfl
  · rintro past closing later code rfl returned message again
    have before := reached_wellFormed target stream role config past
    have closed := step_stepped target before closing
    -- a close frame leaves a state that no message can be read in, and it does not come back
    have closes : (step target (reached target stream role config past) closing).2.state.canRead = false := by
      rw [(closed.message_state returned).2]
      exact stateAfter_close _ _
    have stays : socket.state.canRead = false := by
      show (reached target stream role config (past ++ closing :: later)).state.canRead = false
      rw [reached_append]
      exact final_state (fun _ _ forward => forward.closing) (step_wellFormed target before closing) later closes
    have canRead : socket.state.canRead = true := (stepped.message_state again).1
    rw [stays] at canRead
    cases canRead

/-! ## Connections that have been closed -/

end WebSocket

/-- Flushing fails with this error: it is the answer to the write, or to the flush behind it. -/
def FrameCodec.FlushFails (codec : FrameCodec) (error : IoError) : Prop :=
  (∃ accepted, codec.io.writes.headD .done = .failed accepted error) ∨
  (codec.io.writes.headD .done = .done ∧ codec.io.flushes.headD .done = .failed error)

theorem FrameCodec.flush_fails {codec : FrameCodec} {error : IoError} (failed : codec.flush.1 = .err (.Io error)) :
    codec.FlushFails error := by
  have flushed := codec.flush_flushed
  generalize codec.flush = result at flushed failed
  cases flushed with
  | empty => cases failed
  | dropped => cases failed
  | tore accepted error answer =>
    cases failed
    exact .inl ⟨accepted, answer⟩
  | wrote answer =>
    refine .inr ⟨answer, ?_⟩
    simp only [onIo, Stream.flush, FrameCodec.wrote] at failed
    cases flushes : codec.io.flushes.headD .done with
    | done => rw [flushes] at failed; cases failed
    | failed other => rw [flushes] at failed; cases failed; rfl
    | stalled => rw [flushes] at failed; cases failed

theorem FrameCodec.send_fails {codec : FrameCodec} {frame : Frame} {error : IoError}
    (failed : (codec.send frame).1 = .err (.Io error)) :
    codec.writeLimit < codec.writeBuf.length ∧ codec.FlushFails error := by
  have sent := codec.send_sent frame
  generalize codec.send frame = result at sent failed
  cases sent with
  | appended | flushed => cases failed
  | stopped exceeds => exact ⟨exceeds, flush_fails failed⟩

namespace WebSocket

/-- The stream of a client that is closing is reset when it is read. -/
def ReaderReset (target : Target) (socket : WebSocket) : Prop :=
  socket.role = .Client ∧ socket.state ≠ .Terminated ∧ socket.state.canRead = false ∧
    (FramedRead.next target socket.frameCodec.inner).1 = .err (.Io ⟨.ConnectionReset⟩)

/-- A close frame comes in, the write buffer is over its limit, and the stream is reset when the buffer is
flushed to make room for the reply. -/
def ReplyReset (target : Target) (socket : WebSocket) : Prop :=
  socket.state = .Active ∧ socket.frameCodec.writeLimit < socket.frameCodec.writeBuf.length ∧
    socket.frameCodec.FlushFails ⟨.ConnectionReset⟩ ∧
    ∃ last frame, Silent target socket last ∧
      (FramedRead.next target last.frameCodec.inner).1 = .ok (some frame) ∧
      Allowed (last.rules target) last.pending frame ∧ frame.header.opcode = .Control .Close

/-- A reset of the stream becomes `ConnectionClosed`, and the state stays as it was. -/
def HidesReset (target : Target) (socket : WebSocket) (call : Call) : Prop :=
  call.op = .read ∧ (ReaderReset target (install call socket) ∨ ReplyReset target (install call socket))

/-- A socket that is closing reads one frame at most. -/
theorem Silent.of_closing {target : Target} {socket last : WebSocket} (silent : Silent target socket last)
    (closing : socket.state.canRead = false) : last = socket := by
  cases silent with
  | refl => rfl
  | step canRead =>
    rw [closing] at canRead
    cases canRead

theorem ioError_connectionClosed {state : WebSocketState} {error : IoError}
    (closed : ioError state error = .ConnectionClosed) : state.canRead = false ∧ error = ⟨.ConnectionReset⟩ := by
  unfold ioError at closed
  split at closed
  next translated =>
    obtain ⟨kind⟩ := error
    obtain ⟨closing, rfl⟩ := translated
    exact ⟨by simpa using closing, rfl⟩
  next => cases closed

theorem writeFrame_connectionClosed {frame : Frame} {socket : WebSocket}
    (closed : (writeFrame frame socket).1 = .err .ConnectionClosed) :
    socket.state.canRead = false ∧ socket.frameCodec.writeLimit < socket.frameCodec.writeBuf.length ∧
      socket.frameCodec.FlushFails ⟨.ConnectionReset⟩ := by
  have ended := FrameCodec.send_ended (outgoing frame socket) socket.frameCodec
  have translated : checkConnectionReset socket.state (socket.frameCodec.send (outgoing frame socket)).1 =
      .err .ConnectionClosed := closed
  cases sent : (socket.frameCodec.send (outgoing frame socket)).1 with
  | ok value => rw [sent] at translated; cases translated
  | panic site => rw [sent] at translated; cases translated
  | pending => rw [sent] at translated; cases translated
  | err error =>
    rw [sent] at translated ended
    cases ended with
    | failed error =>
      rw [checkConnectionReset_io] at translated
      obtain ⟨closing, rfl⟩ := ioError_connectionClosed (Lib.Outcome.err.inj translated)
      exact ⟨closing, FrameCodec.send_fails sent⟩

theorem autoSend_connectionClosed {reply : Option Frame} {socket : WebSocket}
    (closed : (autoSend reply socket).1 = .err .ConnectionClosed) :
    reply.isSome = true ∧ socket.state.canRead = false ∧
      socket.frameCodec.writeLimit < socket.frameCodec.writeBuf.length ∧
      socket.frameCodec.FlushFails ⟨.ConnectionReset⟩ := by
  cases reply with
  | none => cases closed
  | some frame =>
    rcases Lib.andThen_err_inv closed with ⟨wrote, _⟩ | ⟨_, _, flushed, _⟩
    · exact ⟨rfl, writeFrame_connectionClosed wrote⟩
    · have ended := FrameCodec.flush_ended (writeFrame frame socket).2.frameCodec
      rw [show (FrameCodec.flush _).1 = .err .ConnectionClosed from flushed] at ended
      cases ended

/-- The message that is answered on a connection that is then closing. -/
theorem close_of_reply {state : WebSocketState} {message : Option Message}
    (replied : (replyTo state message).isSome = true) (closing : (stateAfter state message).canRead = false) :
    state = .Active ∧ ∃ code, message = some (.Close code) := by
  cases state with
  | Active =>
    refine ⟨rfl, ?_⟩
    match message with
    | some (.Close code) => exact ⟨code, rfl⟩
    | none | some (.Text _) | some (.Binary _) | some (.Ping _) | some (.Pong _) | some (.Frame _) => cases closing
  | _ =>
    match message with
    | none | some (.Close _) | some (.Text _) | some (.Binary _) | some (.Ping _) | some (.Pong _) |
      some (.Frame _) => cases replied

theorem Rounded.connectionClosed {target : Target} {socket : WebSocket} {result : Reply × WebSocket}
    (rounded : Rounded target socket result) (closed : result.1 = .err .ConnectionClosed) :
    result.2.state = .Terminated ∨
    (socket.state.canRead = false ∧
      (FramedRead.next target socket.frameCodec.inner).1 = .err (.Io ⟨.ConnectionReset⟩)) ∨
    (socket.state = .Active ∧ socket.frameCodec.writeLimit < socket.frameCodec.writeBuf.length ∧
      socket.frameCodec.FlushFails ⟨.ConnectionReset⟩ ∧
      ∃ frame, (FramedRead.next target socket.frameCodec.inner).1 = .ok (some frame) ∧
        Allowed (socket.rules target) socket.pending frame ∧ frame.header.opcode = .Control .Close) := by
  cases rounded with
  | eof => exact .inl rfl
  | failed came =>
    obtain ⟨closing, rfl⟩ := ioError_connectionClosed (Lib.Outcome.err.inj closed)
    exact .inr (.inl ⟨closing, congrArg Prod.fst came⟩)
  | refused refusal =>
    cases closed
    exact refusal.elim
  | rejected canRead came grown notAllowed refused =>
    obtain ⟨error, _, refusal, run, _⟩ := refused.outcome
    cases closed
    cases run
    exact refusal.elim
  | @accepted frame after message incomplete canRead came grown shorter allowed delivers pending wellFormed =>
    rcases Lib.andThen_err_inv closed with ⟨sent, _⟩ | ⟨_, _, returned, _⟩
    · obtain ⟨replied, closing, exceeds, fails⟩ := autoSend_connectionClosed sent
      obtain ⟨active, code, rfl⟩ := close_of_reply replied closing
      have delivered : (next (socket.rules target) socket.pending frame).1 = some (.Close code) := delivers.symm
      refine .inr (.inr ⟨active, exceeds, fails, frame, congrArg Prod.fst came, allowed, ?_⟩)
      exact (next_closes delivered).1
    · cases returned
  | _ => cases closed

/-- A step that returns `ConnectionClosed` has ended the connection, unless it hides a reset. -/
theorem step_connectionClosed {target : Target} {socket : WebSocket} (wellFormed : socket.WellFormed) {call : Call}
    (shown : ¬ HidesReset target socket call) (closed : (step target socket call).1 = .err .ConnectionClosed) :
    (step target socket call).2.state = .Terminated := by
  have stepped := step_stepped target wellFormed call
  have quiet : ∀ {result : Result Unit × WebSocket}, Quiet (install call socket) result →
      (asUnitReply result).1 = .err .ConnectionClosed → (asUnitReply result).2.state = .Terminated := by
    rintro ⟨outcome, after⟩ quiet closed
    refine quiet.closed ?_
    cases outcome with
    | err error =>
      cases closed
      rfl
    | _ => cases closed
  rw [HidesReset] at shown
  generalize step target socket call = result at stepped closed ⊢
  generalize call.op = op at stepped shown
  cases stepped with
  | terminated => cases closed
  | closing => rfl
  | read state reads silent lastWellFormed rounded =>
    rcases rounded.connectionClosed closed with terminated | ⟨closing, came⟩ |
      ⟨active, exceeds, fails, frame, came, allowed, closes⟩
    · exact terminated
    -- a reset is hidden from a client that has been read to its close frame
    · rw [silent.state_eq] at closing
      obtain rfl := silent.of_closing closing
      have role : (install call socket).role = .Client :=
        reads.resolve_right (by rw [closing]; exact Bool.false_ne_true)
      exact absurd ⟨rfl, .inl ⟨role, state, closing, came⟩⟩ shown
    · rw [silent.state_eq] at active
      obtain ⟨after, incomplete, same⟩ := silent.keeps
      rw [same] at exceeds fails
      exact absurd ⟨rfl, .inr ⟨active, exceeds, fails, _, frame, silent, came, allowed, closes⟩⟩ shown
  | write message => exact quiet (write_quiet message _) closed
  | flush => exact quiet (flush_quiet _) closed
  | close code => exact quiet (close_quiet code _) closed
  | setConfig => cases closed

/-- Once an operation of the run has returned `ConnectionClosed`, later reads and writes return
`AlreadyClosed`. -/
def ClosedIsTerminal (target : Target) (stream : Stream) (role : Role) (config : Option WebSocketConfig)
    (calls : List Call) : Prop :=
  ∀ past closing later call rest, calls = past ++ closing :: (later ++ call :: rest) →
    (step target (reached target stream role config past) closing).1 = .err .ConnectionClosed →
    (call.op = .read ∨ ∃ message, call.op = .write message) →
    (step target (reached target stream role config (past ++ closing :: later)) call).1 = .err .AlreadyClosed

/-- In a run that hides no reset, `ConnectionClosed` is the end. -/
theorem connectionClosed_terminal (target : Target) (stream : Stream) (role : Role)
    (config : Option WebSocketConfig) (calls : List Call)
    (shown : Lib.Meets (step target) (fun socket call => ¬ HidesReset target socket call)
      (fromRawSocket stream role config) calls) :
    ClosedIsTerminal target stream role config calls := by
  rintro past closing later call rest rfl closed readsOrWrites
  have wellFormed := reached_wellFormed target stream role config past
  have terminated := step_connectionClosed wellFormed (Lib.meets_append.mp shown).2.1 closed
  refine step_terminated target ?_ readsOrWrites
  rw [reached_append]
  have stays : ∀ before after, Forward before after → before = .Terminated → after = .Terminated := by
    rintro _ after forward rfl
    exact forward.terminated
  exact final_state stays (step_wellFormed target wellFormed closing) later terminated

/-- An operation that finds these actions of the reader and a stream that does what it is asked. -/
def Call.reading (op : Op) (reader : List ReadAction) : Call := ⟨op, reader, [], [], [], []⟩

/-- A server that answers a close frame, shuts down, and is then written to. -/
def closedByPeer : List Call :=
  [.reading .read [.frame (Frame.close none)], .reading .flush [], .reading (.write (.Text ⟨[]⟩)) []]

theorem connectionClosed_terminal_server :
    (step (.unlimited .w64) (reached (.unlimited .w64) .new .Server none (closedByPeer.take 1))
      (.reading .flush [])).1 = .err .ConnectionClosed ∧
    (step (.unlimited .w64) (reached (.unlimited .w64) .new .Server none (closedByPeer.take 2))
      (.reading (.write (.Text ⟨[]⟩)) [])).1 = .err .AlreadyClosed := by
  have closed : (step (.unlimited .w64) (reached (.unlimited .w64) .new .Server none (closedByPeer.take 1))
      (.reading .flush [])).1 = .err .ConnectionClosed := by decide
  refine ⟨closed, ?_⟩
  have shown : Lib.Meets (step (.unlimited .w64)) (fun socket call => ¬ HidesReset (.unlimited .w64) socket call)
      (fromRawSocket .new .Server none) closedByPeer := by
    refine ⟨?_, ?_, ?_, trivial⟩
    · rintro ⟨_, ⟨role, _⟩ | ⟨_, exceeds, _⟩⟩
      · cases role
      · exact absurd exceeds (by decide)
    · rintro ⟨isRead, _⟩
      cases isRead
    · rintro ⟨isRead, _⟩
      cases isRead
  exact connectionClosed_terminal _ _ _ _ _ shown (closedByPeer.take 1) _ [] _ [] rfl closed (.inr ⟨_, rfl⟩)

/-- A client that has answered a close frame, whose stream is then reset, and that is then written to. -/
def resetAfterClose : List Call :=
  [.reading .read [.frame (Frame.close none)], .reading .read [.fail ⟨.ConnectionReset⟩],
    .reading (.write (.Text ⟨[]⟩)) []]

/-- The reset comes back as `ConnectionClosed`, and the write after it as `SendAfterClosing`. -/
theorem not_closedIsTerminal_reset :
    ¬ ClosedIsTerminal (.unlimited .w64) .new .Client none resetAfterClose := by
  intro terminal
  have written := terminal (resetAfterClose.take 1) _ [] _ [] rfl (by decide) (.inr ⟨_, rfl⟩)
  revert written
  decide

end WebSocket

end MonoioTungstenite
