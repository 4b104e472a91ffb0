import MonoioTungstenite.Linked

/-! # The socket as a stream and as a sink

`impl Stream for WebSocket` and `impl Sink<Message> for WebSocket`.  They call `read`, `write`, `flush` and `close`, and
take the errors for a connection that has been closed as the end of the stream, or as success.  So they leave the socket
as these leave it, and runs may mix both kinds of calls.

`next_fused` is about every run, whatever arrives and whatever the stream answers.  Where two ends are joined, the end of
the stream comes when everything has been returned that the other end ever writes (`Network.stream_complete`), and a sink
fails on a message only, and only when its end has closed (`Network.sink_serves`). -/

namespace MonoioTungstenite

open WebSocket

namespace WebSocket

/-! ## The impls -/

/-- The item of a stream: the errors for a closed connection are its end. -/
def asItem : Result Message → Result (Option (Except Error Message))
  | .ok message => .ok (some (.ok message))
  | .err .AlreadyClosed | .err .ConnectionClosed => .ok none
  | .err error => .ok (some (.error error))
  | .panic site => .panic site
  | .pending => .pending

/-- For a sink, a connection that has been closed is no failure. -/
def closedIsOk : Result Unit → Result Unit
  | .err .ConnectionClosed => .ok ()
  | result => result

/-- `Stream::next` -/
def AsStream.next (target : Target) (socket : WebSocket) : Result (Option (Except Error Message)) × WebSocket :=
  (read target socket).map asItem id

/-- `Sink::send` -/
def AsSink.send (item : Message) (socket : WebSocket) : Result Unit × WebSocket := write item socket

/-- `Sink::flush` -/
def AsSink.flush (socket : WebSocket) : Result Unit × WebSocket := (WebSocket.flush socket).map closedIsOk id

/-- `Sink::close` -/
def AsSink.close (socket : WebSocket) : Result Unit × WebSocket := (WebSocket.close none socket).map closedIsOk id

theorem asItem_none {result : Result Message} (ends : asItem result = .ok none) :
    result = .err .AlreadyClosed ∨ result = .err .ConnectionClosed := by
  cases result with
  | err error =>
    cases error with
    | AlreadyClosed => exact .inl rfl
    | ConnectionClosed => exact .inr rfl
    | _ => cases ends
  | _ => cases ends

theorem asItem_message {result : Result Message} {message : Message} (yields : asItem result = .ok (some (.ok message))) :
    result = .ok message := by
  cases result with
  | ok other =>
    cases yields
    rfl
  | err error => cases error <;> cases yields
  | _ => cases yields

/-! ## The end of the stream -/

theorem ioError_alreadyClosed (state : WebSocketState) (error : IoError) : ioError state error ≠ .AlreadyClosed := by
  unfold ioError
  split <;> nofun

/-- The errors that say that the connection is closed. -/
def SaysClosed (error : Error) : Prop := error = .AlreadyClosed ∨ error = .ConnectionClosed

theorem SaysClosed.refusal {error : Error} (refusal : Refusal error) : ¬ SaysClosed error := by
  rintro (rfl | rfl) <;> exact refusal

theorem SaysClosed.of_ioError {state : WebSocketState} {error : IoError} (closed : SaysClosed (ioError state error)) :
    ioError state error = .ConnectionClosed ∧ state.canRead = false := by
  rcases closed with same | same
  · exact absurd same (ioError_alreadyClosed state error)
  · exact ⟨same, (ioError_connectionClosed same).1⟩

theorem SaysClosed.of_replied {state : WebSocketState} {error : Error} (replied : Replied state (.err error))
    (closed : SaysClosed error) : error = .ConnectionClosed ∧ state.canRead = false := by
  cases replied with
  | failedWrite => exact closed.of_ioError
  | failedFlush => rcases closed with same | same <;> cases same

/-- A round says that the connection is closed with `ConnectionClosed`, and leaves a socket that is not read any more. -/
theorem Rounded.saysClosed {target : Target} {socket : WebSocket} {result : Reply × WebSocket} {error : Error}
    (rounded : Rounded target socket result) (failed : result.1 = .err error) (closed : SaysClosed error) :
    error = .ConnectionClosed ∧ result.2.state.canRead = false := by
  cases rounded with
  | eof =>
    cases failed
    refine ⟨?_, rfl⟩
    rcases closed with same | same
    · generalize socket.state = state at same
      cases state <;> cases same
    · exact same
  | failed =>
    cases failed
    exact closed.of_ioError
  | refused refusal =>
    cases failed
    exact absurd closed (SaysClosed.refusal refusal)
  | rejected canRead came grown notAllowed refused =>
    obtain ⟨_, _, refusal, run, _⟩ := refused.outcome
    cases failed
    cases run
    exact absurd closed (SaysClosed.refusal refusal)
  | @accepted frame after message incomplete =>
    rw [(reply_writesOnly _ _ _).state]
    have replied := autoSend_replied (replyTo socket.state message) (socket.delivered after incomplete message)
    rcases Lib.andThen_err_inv failed with ⟨sent, _⟩ | ⟨_, _, returned, _⟩
    · rw [sent] at replied
      exact closed.of_replied replied
    · cases returned
  | closed =>
    cases failed
    rcases closed with same | same <;> cases same
  | waits | panics => cases failed

/-- A read that says that the connection is closed leaves a socket that is not read any more; after `AlreadyClosed` it
is terminated. -/
theorem Stepped.saysClosed {target : Target} {socket : WebSocket} {result : Reply × WebSocket} {error : Error}
    (stepped : Stepped target socket .read result) (failed : result.1 = .err error) (closed : SaysClosed error) :
    result.2.state.canRead = false ∧ (error = .AlreadyClosed → result.2.state = .Terminated) := by
  cases stepped with
  | terminated state =>
    rw [state]
    exact ⟨rfl, fun _ => rfl⟩
  | closing => exact ⟨rfl, fun _ => rfl⟩
  | read state reads silent wellFormed rounded =>
    obtain ⟨rfl, closing⟩ := rounded.saysClosed failed closed
    exact ⟨closing, nofun⟩

theorem read_stepped (target : Target) {socket : WebSocket} (wellFormed : socket.WellFormed) :
    Stepped target socket .read (asReply (read target socket)) := perform_stepped target .read wellFormed

/-- On a server that does not read any more, the stream has ended. -/
theorem next_of_closing (target : Target) {socket : WebSocket} (role : socket.role = .Server)
    (closing : socket.state.canRead = false) : (AsStream.next target socket).1 = .ok none := by
  unfold AsStream.next read
  by_cases terminated : socket.state = .Terminated
  · rw [if_pos terminated]
    rfl
  · rw [if_neg terminated, if_pos ⟨role, by rw [closing]; exact Bool.false_ne_true⟩]
    rfl

theorem next_of_terminated (target : Target) {socket : WebSocket} (terminated : socket.state = .Terminated) :
    (AsStream.next target socket).1 = .ok none := by
  unfold AsStream.next read
  rw [if_pos terminated]
  rfl

/-- The end of the stream has not come from a reset that a read hides. -/
def EndShown (target : Target) (socket : WebSocket) : Prop :=
  ¬ (ReaderReset target socket ∨ ReplyReset target socket)

/-- **The end of the stream is final.**  In every run, once `next` has returned `None`, it never returns a message again,
and nothing can be sent any more.  On a server it returns `None` for ever; and so it does on a client, unless what has
ended its stream is a reset that has been taken for the end. -/
theorem next_fused (target : Target) (stream : Stream) (role : Role) (config : Option WebSocketConfig)
    (past later : List Call) (ended call : Call) :
    let before := install ended (reached target stream role config past)
    let after := install call (Lib.final (step target) (AsStream.next target before).2 later)
    (AsStream.next target before).1 = .ok none →
      (∀ message, (AsStream.next target after).1 ≠ .ok (some (.ok message))) ∧
      (∀ item, ∃ error, AsSink.send item after = (.err error, after)) ∧
      (role = .Server ∨ EndShown target before → (AsStream.next target after).1 = .ok none) := by
  intro before after ends
  have wellFormed : before.WellFormed := reached_wellFormed target stream role config past
  have stepped := read_stepped target wellFormed
  have between : (AsStream.next target before).2.WellFormed := stepped.wellFormed wellFormed
  obtain ⟨error, failed, closed⟩ : ∃ error, (asReply (read target before)).1 = .err error ∧ SaysClosed error := by
    rcases asItem_none ends with same | same
    · exact ⟨_, congrArg (Lib.Outcome.map some) same, .inl rfl⟩
    · exact ⟨_, congrArg (Lib.Outcome.map some) same, .inr rfl⟩
  -- a socket that has ended its stream is not read any more, and stays so
  have closing : after.state.canRead = false :=
    @final_state _ (fun state => state.canRead = false) (fun _ _ forward => forward.closing) _ between later
      (stepped.saysClosed failed closed).1
  have stillWellFormed := install_wellFormed (final_wellFormed target between later) call
  refine ⟨fun message yields => ?_, fun item => write_refused ?_, fun shown => ?_⟩
  · have returned := asItem_message yields
    have canRead := ((read_stepped target stillWellFormed).message_state (congrArg (Lib.Outcome.map some) returned)).1
    rw [closing] at canRead
    cases canRead
  · intro active
    rw [active] at closing
    cases closing
  · rcases shown with server | shown
    · refine next_of_closing target ?_ closing
      show (Lib.final (step target) _ later).role = .Server
      rw [final_role target between, show (AsStream.next target before).2.role = before.role from stepped.role]
      exact (final_role target (fromRawSocket_wellFormed stream role config) past).trans server
    · -- nothing has been hidden, so the socket has been terminated
      refine next_of_terminated target ?_
      have terminated : (AsStream.next target before).2.state = .Terminated := by
        rcases closed with rfl | rfl
        · exact (stepped.saysClosed failed (.inl rfl)).2 rfl
        · have reached := reached_wellFormed target stream role config past
          exact @step_connectionClosed target _ reached { ended with op := .read } (fun hides => shown hides.2) failed
      have stays : ∀ before after, Forward before after → before = .Terminated → after = .Terminated := by
        rintro _ after forward rfl
        exact forward.terminated
      exact final_state stays between later terminated

theorem next_fused_closedByPeer :
    let before := install (.reading .read []) (reached (.unlimited .w64) .new .Server none (closedByPeer.take 1))
    let after := install (.reading .read []) (AsStream.next (.unlimited .w64) before).2
    (AsStream.next (.unlimited .w64) before).1 = .ok none ∧
      (∀ message, (AsStream.next (.unlimited .w64) after).1 ≠ .ok (some (.ok message))) ∧
      (∀ item, ∃ error, AsSink.send item after = (.err error, after)) ∧
      (.Server = Role.Server ∨ EndShown (.unlimited .w64) before → (AsStream.next (.unlimited .w64) after).1 = .ok none) := by
  intro before after
  have ended : (AsStream.next (.unlimited .w64) before).1 = .ok none := by decide
  exact ⟨ended, next_fused (.unlimited .w64) .new .Server none (closedByPeer.take 1) [] (.reading .read [])
    (.reading .read []) ended⟩

end WebSocket

/-! ## Two ends -/

namespace Network

variable {width : Role → PointerWidth} {configs : Role → Option WebSocketConfig}

/-- What a turn at a joined end does to the queues, wherever fair turns have led. -/
theorem turn_moves (roomy : ∀ role, Roomy ((configs role).getD .default)) {turns later : List (Role × Call)}
    {turn : Role × Call}
    (fair : Lib.Meets (step width) (Fair width) (joined configs) (turns ++ turn :: later)) :
    ∃ link next last, Link.Kept (Lib.trace (step width) (joined configs) turns) link ∧
      (∀ role, InLink link (Lib.final (step width) (joined configs) turns) role) ∧
      Link.Moves turn.1 link turn.2.op (step width (Lib.final (step width) (joined configs) turns) turn).1 next ∧
      Lib.Path Link.Turn next
        (Lib.trace (step width) (step width (Lib.final (step width) (joined configs) turns) turn).2 later) last := by
  obtain ⟨before, now, after⟩ := Lib.meets_append.mp fair
  obtain ⟨link, path, linked⟩ := (step_refines roomy).path (linked_joined width configs) before
  obtain ⟨next, moved, goesOn⟩ := step_refines roomy _ link turn linked now
  obtain ⟨last, rest, _⟩ := (step_refines roomy).path goesOn after
  exact ⟨link, next, last, Link.path_kept path, linked.2, moved, rest⟩

/-- The item of a read that the queues allow. -/
theorem item_of_moves {link next : Link} {role : Role} {result : Result Message}
    (moves : link.Moves role .read (result.map some) next) :
    (∀ error, asItem result ≠ .ok (some (.error error))) ∧ (asItem result = .ok none → next = link ∧ link.Over role) := by
  generalize replied : result.map some = reply at moves
  cases moves with
  | takes =>
    cases result <;> cases replied
    exact ⟨nofun, nofun⟩
  | ends isOver kind =>
    cases result <;> cases replied
    refine ⟨fun error same => ?_, fun _ => ⟨rfl, isOver⟩⟩
    rcases kind with rfl | rfl <;> cases same
  | closes opened asked => cases asked
  | shutsDown flushing => rcases flushing with same | ⟨_, same⟩ <;> cases same

/-- What flushing and closing give, where the queues allow it. -/
theorem serves_of_moves {link next : Link} {role : Role} {op : Op} {result : Result Unit}
    (flushing : op = .flush ∨ ∃ code, op = .close code)
    (moves : link.Moves role op (result.map fun _ => none) next) : closedIsOk result = .ok () := by
  generalize replied : (result.map fun _ => none : Reply) = reply at moves
  cases moves with
  | closes | flushes | hasClosed | shutsDown =>
    cases result <;> cases replied
    rfl
  | _ => rcases flushing with same | ⟨_, same⟩ <;> cases same

/-- What sending gives, where the queues allow it. -/
theorem sent_of_moves {link next : Link} {role : Role} {item : Message} {result : Result Unit}
    (moves : link.Moves role (.write item) (result.map fun _ => none) next) :
    (link.closed role = false ∧ result = .ok ()) ∨
      (link.closed role = true ∧ ∃ error, (error = .AlreadyClosed ∨ error = .Protocol .SendAfterClosing) ∧
        result = .err error) := by
  generalize replied : (result.map fun _ => none : Reply) = reply at moves
  cases moves with
  | sends opened | closes opened =>
    cases result <;> cases replied
    exact .inl ⟨opened, rfl⟩
  | refuses closed kind =>
    cases result <;> cases replied
    exact .inr ⟨closed, _, kind, rfl⟩
  | shutsDown flushing => rcases flushing with same | ⟨_, same⟩ <;> cases same

/-- A server closes the connection, and the client answers. -/
def farewell : List (Role × Call) :=
  [(.Server, .reading (.close none) []), (.Client, .reading .read [.fill [0x88, 0x00], .decode]),
    (.Server, .reading .read [.fill [0x88, 0x80, 0, 0, 0, 0], .decode])]

theorem farewell_fair {op : Op} (kind : op = .read ∨ op = .flush ∨ op = .write (.Ping [])) :
    Lib.Meets (step fun _ => .w64) (Fair fun _ => .w64) (joined fun _ => none) (farewell ++ [(.Server, .reading op [])]) := by
  have quiet : ∀ op reader, (Call.reading op reader).Calm := fun op reader => Call.calm_of_nil rfl rfl rfl
  have asked : SuitsClose none := by simp [SuitsClose]
  refine ⟨.of_bytes asked (quiet _ _) (by decide) rfl (by decide),
    .of_bytes trivial (quiet _ _) (by decide) rfl (by decide),
    .of_bytes trivial (quiet _ _) (by decide) rfl (by decide), ?_, trivial⟩
  rcases kind with rfl | rfl | rfl
  · exact .of_bytes trivial (quiet _ _) (by decide) rfl (by decide)
  · exact .of_bytes trivial (quiet _ _) (by decide) rfl (by decide)
  · exact .of_bytes (Nat.zero_le _) (quiet _ _) (by decide) rfl (by decide)

section Traits

variable (width : Role → PointerWidth) (configs : Role → Option WebSocketConfig)

/-- **The end of the stream is the end of the messages.**  Wherever fair turns of two joined ends have led, `next` gives
no error.  When it gives `None`, then both ends have closed, and all of the texts, data and pings that are written at the
other end, before and after, have been returned. -/
theorem stream_complete (roomy : ∀ role, Roomy ((configs role).getD .default)) {turns later : List (Role × Call)}
    {role : Role} {call : Call} (reads : call.op = .read)
    (fair : Lib.Meets (step width) (Fair width) (joined configs) (turns ++ (role, call) :: later)) :
    let network := Lib.final (step width) (joined configs) turns
    let item := (AsStream.next (.unlimited (width role)) (install call (network role))).1
    (∀ error, item ≠ .ok (some (.error error))) ∧
      (item = .ok none → (∀ role, (network role).state ≠ .Active) ∧
        written role.other (Lib.trace (step width) (joined configs) (turns ++ (role, call) :: later)) =
          returned role (Lib.trace (step width) (joined configs) turns)) := by
  intro network item
  obtain ⟨link, next, last, kept, inLink, moves, rest⟩ := turn_moves roomy fair
  have replied : (step width network (role, call)).1 =
      (read (.unlimited (width role)) (install call (network role))).1.map some := by
    show (WebSocket.step _ _ call).1 = _
    rw [WebSocket.step, reads]
    rfl
  obtain ⟨fails, ends⟩ := item_of_moves (show Link.Moves role link .read _ next by rw [← replied, ← reads]; exact moves)
  refine ⟨fails, fun ended => ?_⟩
  obtain ⟨rfl, isOver⟩ := ends ended
  have closed : ∀ either, next.closed either = true := by
    have own := isOver.closed
    have others := isOver.otherClosed
    intro either
    cases either <;> cases role <;> first | exact own | exact others
  constructor
  · intro either active
    have opened := (inLink either).isOpen active
    rw [closed either] at opened
    cases opened
  · have before := kept.conserves role.other
    rw [Role.other_other, isOver.nothing, List.filter_nil, List.append_nil] at before
    have moved : Link.Turn ((role, call), (step width network (role, call)).1) next next := moves
    have quiet := Link.path_closed_written (.step moved rest) (closed role.other)
    have split : written role.other (Lib.trace (step width) (joined configs) (turns ++ (role, call) :: later)) =
        written role.other (Lib.trace (step width) (joined configs) turns) ++
          written role.other (Lib.trace (step width) network ((role, call) :: later)) := by
      rw [Lib.trace_append]
      exact List.filterMap_append
    rw [split, before]
    exact (congrArg _ quiet).trans (List.append_nil _)

theorem stream_complete_farewell :
    let network := Lib.final (step fun _ => .w64) (joined fun _ => none) farewell
    (AsStream.next (.unlimited .w64) (install (.reading .read []) (network .Server))).1 = .ok none ∧
      (∀ role, (network role).state ≠ .Active) ∧
        written .Client (Lib.trace (step fun _ => .w64) (joined fun _ => none)
          (farewell ++ [(.Server, .reading .read [])])) =
            returned .Server (Lib.trace (step fun _ => .w64) (joined fun _ => none) farewell) := by
  intro network
  have ended : (AsStream.next (.unlimited .w64) (install (.reading .read []) (network .Server))).1 = .ok none := by decide
  exact ⟨ended, (stream_complete (fun _ => .w64) (fun _ => none) (fun _ => by decide) rfl
    (farewell_fair (.inl rfl))).2 ended⟩

/-- **A sink fails on a message only, and only when its end has closed.**  Wherever fair turns of two joined ends have led,
flushing and closing succeed, whatever the state of the connection; and sending does exactly as long as the end is
active. -/
theorem sink_serves (roomy : ∀ role, Roomy ((configs role).getD .default)) {turns : List (Role × Call)} {role : Role}
    {call : Call} (fair : Lib.Meets (step width) (Fair width) (joined configs) (turns ++ [(role, call)])) :
    let network := Lib.final (step width) (joined configs) turns
    let socket := install call (network role)
    (call.op = .flush → (AsSink.flush socket).1 = .ok ()) ∧
      (call.op = .close none → (AsSink.close socket).1 = .ok ()) ∧
      ∀ item, call.op = .write item →
        ((network role).state = .Active ∧ (AsSink.send item socket).1 = .ok ()) ∨
          ((network role).state ≠ .Active ∧ ∃ error, (error = .AlreadyClosed ∨ error = .Protocol .SendAfterClosing) ∧
            (AsSink.send item socket).1 = .err error) := by
  intro network socket
  obtain ⟨link, next, _, _, inLink, moves, _⟩ := turn_moves roomy fair
  change Link.Moves role link call.op (perform (.unlimited (width role)) call.op socket).1 next at moves
  refine ⟨fun asked => ?_, fun asked => ?_, fun item asked => ?_⟩
  · rw [asked] at moves
    exact serves_of_moves (.inl rfl) moves
  · rw [asked] at moves
    exact serves_of_moves (.inr ⟨none, rfl⟩) moves
  · rw [asked] at moves
    rcases sent_of_moves moves with ⟨opened, sent⟩ | ⟨shut, error, kind, failed⟩
    · refine .inl ⟨?_, sent⟩
      by_contra inactive
      rw [(inLink role).isClosed inactive] at opened
      cases opened
    · refine .inr ⟨fun active => ?_, error, kind, failed⟩
      rw [(inLink role).isOpen active] at shut
      cases shut

/-- Behind the farewell the server can be flushed, and sends nothing. -/
theorem sink_serves_farewell :
    let network := Lib.final (step fun _ => .w64) (joined fun _ => none) farewell
    (AsSink.flush (install (.reading .flush []) (network .Server))).1 = .ok () ∧
      ∃ error, (error = .AlreadyClosed ∨ error = .Protocol .SendAfterClosing) ∧
        (AsSink.send (.Ping []) (install (.reading (.write (.Ping [])) []) (network .Server))).1 = .err error := by
  intro network
  have inactive : (network .Server).state ≠ .Active := by decide
  obtain ⟨flushes, _⟩ := sink_serves (fun _ => .w64) (fun _ => none) (fun _ => by decide)
    (farewell_fair (.inr (.inl rfl)))
  obtain ⟨_, _, sends⟩ := sink_serves (fun _ => .w64) (fun _ => none) (fun _ => by decide)
    (farewell_fair (.inr (.inr rfl)))
  rcases sends (.Ping []) rfl with ⟨active, _⟩ | ⟨_, failed⟩
  · exact absurd active inactive
  · exact ⟨flushes rfl, failed⟩

end Traits

end Network

end MonoioTungstenite
