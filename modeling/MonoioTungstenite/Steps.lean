import MonoioTungstenite.Read
import MonoioTungstenite.Lib.Run

/-! # What a step can do

The other operations of the socket, as `Read` does it for `read`: how the state of the connection moves
(`Forward`), what belongs to reading and stays, and which results come back.  `step_stepped` is about every
step, `reached_wellFormed` about every run. -/

namespace MonoioTungstenite

open Lib.Utf8 Reassembly

/-! ## The codec -/

namespace FrameCodec

/-- An operation of the stream or the codec returns, fails for the stream, or waits. -/
inductive IoEnded : Result Unit → Prop
  | ok : IoEnded (.ok ())
  | failed (error : IoError) : IoEnded (.err (.Io error))
  | stalled : IoEnded .pending

theorem Marked.ended {event : StreamEvent} {codec : FrameCodec} {result : Result Unit × FrameCodec}
    (marked : Marked event codec result) : IoEnded result.1 := by
  cases marked with
  | done => exact .ok
  | failed => exact .failed _
  | stalled => exact .stalled

theorem flush_ended (codec : FrameCodec) : IoEnded codec.flush.1 := by
  have flushed := codec.flush_flushed
  generalize codec.flush = result at flushed ⊢
  cases flushed with
  | empty => exact .ok
  | dropped => exact .stalled
  | tore => exact .failed _
  | wrote => exact (onIo_flush_marked _).ended

theorem IoEnded.andThen {first : Result Unit × FrameCodec} {rest : Unit → FrameCodec → Result Unit × FrameCodec}
    (ended : IoEnded first.1) (next : ∀ codec, IoEnded (rest () codec).1) : IoEnded (Lib.andThen first rest).1 := by
  obtain ⟨result, codec⟩ := first
  cases ended with
  | ok => exact next codec
  | failed error => exact .failed error
  | stalled => exact .stalled

theorem send_ended (frame : Frame) (codec : FrameCodec) : IoEnded (codec.send frame).1 := by
  refine IoEnded.andThen ?_ fun _ => .ok
  split
  · exact codec.flush_ended
  · exact .ok

theorem close_ended (codec : FrameCodec) : IoEnded codec.close.1 :=
  IoEnded.andThen codec.flush_ended fun codec => (onIo_shutdown_marked codec).ended

theorem close_inner (codec : FrameCodec) : codec.close.2.inner = codec.inner :=
  (Lib.andThen_keeps FrameCodec.inner fun _ _ => rfl).trans codec.flush_untouched.inner

end FrameCodec

/-! ## The state of the connection -/

/-- The moves the state may make. -/
inductive Forward : WebSocketState → WebSocketState → Prop
  | refl (state : WebSocketState) : Forward state state
  | closeByUs : Forward .Active .ClosedByUs
  | closeByPeer : Forward .Active .ClosedByPeer
  | acknowledge : Forward .ClosedByUs .CloseAcknowledged
  | terminate (state : WebSocketState) : Forward state .Terminated

theorem Forward.stateAfter {state : WebSocketState} (canRead : state.canRead = true) (message : Option Message) :
    Forward state (WebSocket.stateAfter state message) := by
  unfold WebSocket.stateAfter
  cases state with
  | Active => split <;> first | exact .closeByPeer | exact .refl _
  | ClosedByUs => split <;> first | exact .acknowledge | exact .refl _
  | _ => cases canRead

namespace WebSocket

/-! ## Writing, flushing and closing -/

/-- How the operations that only write end. -/
structure Quiet (before : WebSocket) (result : Result Unit × WebSocket) : Prop where
  kept : ReadSideKept before result.2
  noPanic : Lib.NoPanic result
  forward : Forward before.state result.2.state
  closed : result.1 = .err .ConnectionClosed → result.2.state = .Terminated

theorem ioError_of_canRead {state : WebSocketState} (canRead : state.canRead = true) (error : IoError) :
    ioError state error = .Io error := by
  rw [ioError, if_neg (by simp [canRead])]

/-- How writing a frame ends. -/
inductive Wrote (state : WebSocketState) : Result Unit → Prop
  | ok : Wrote state (.ok ())
  | failed (error : IoError) : Wrote state (.err (ioError state error))
  | stalled : Wrote state .pending

theorem writeFrame_wrote (frame : Frame) (socket : WebSocket) : Wrote socket.state (writeFrame frame socket).1 := by
  have ended := FrameCodec.send_ended (outgoing frame socket) socket.frameCodec
  show Wrote socket.state (checkConnectionReset socket.state (socket.frameCodec.send (outgoing frame socket)).1)
  generalize (socket.frameCodec.send (outgoing frame socket)).1 = result at ended
  cases ended with
  | ok => exact .ok
  | failed error =>
    rw [checkConnectionReset_io]
    exact .failed error
  | stalled => exact .stalled

theorem writeFrame_quiet {socket : WebSocket} (canRead : socket.state.canRead = true) (frame : Frame) :
    Quiet socket (writeFrame frame socket) := by
  have wrote := writeFrame_wrote frame socket
  have writes := writeFrame_writesOnly frame socket
  refine ⟨writes.toReadSideKept, ?_, by rw [writes.state]; exact .refl _, ?_⟩
  · intro site panicked
    rw [panicked] at wrote
    cases wrote
  · intro closed
    generalize (writeFrame frame socket).1 = result at wrote closed
    cases wrote with
    | ok => cases closed
    | failed error =>
      rw [ioError_of_canRead canRead] at closed
      cases closed
    | stalled => cases closed

/-- What `flush` does: a server that is closing shuts the connection down, and any other socket flushes its
codec. -/
inductive Flushed (socket : WebSocket) : Result Unit × WebSocket → Prop
  | closed {after : WebSocket} (role : socket.role = .Server) (closing : socket.state.canRead = false)
    (terminated : after.state = .Terminated) (kept : ReadSideKept socket after) :
    Flushed socket (.err .ConnectionClosed, after)
  | failed {after : WebSocket} (error : IoError) (role : socket.role = .Server)
    (closing : socket.state.canRead = false) (terminated : after.state = .Terminated)
    (kept : ReadSideKept socket after) : Flushed socket (.err (.Io error), after)
  | stalled {after : WebSocket} (role : socket.role = .Server) (closing : socket.state.canRead = false)
    (terminated : after.state = .Terminated) (kept : ReadSideKept socket after) : Flushed socket (.pending, after)
  | codec : Flushed socket (onCodec FrameCodec.flush socket)

theorem flush_flushed (socket : WebSocket) : Flushed socket (flush socket) := by
  unfold flush
  by_cases closing : socket.role = .Server ∧ ¬ socket.state.canRead = true
  · have canRead : socket.state.canRead = false := by simpa using closing.2
    have ended := FrameCodec.close_ended socket.frameCodec
    have inner := FrameCodec.close_inner socket.frameCodec
    rw [if_pos closing]
    unfold onCodec
    generalize socket.frameCodec.close = result at ended inner
    obtain ⟨outcome, codec⟩ := result
    cases ended with
    | ok => exact .closed closing.1 canRead rfl ⟨rfl, rfl, rfl, inner⟩
    | failed error => exact .failed error closing.1 canRead rfl ⟨rfl, rfl, rfl, inner⟩
    | stalled => exact .stalled closing.1 canRead rfl ⟨rfl, rfl, rfl, inner⟩
  · rw [if_neg closing]
    exact .codec

theorem flush_quiet (socket : WebSocket) : Quiet socket (flush socket) := by
  have flushed := flush_flushed socket
  generalize flush socket = result at flushed
  cases flushed with
  | closed _ _ terminated kept => exact ⟨kept, nofun, by rw [terminated]; exact .terminate _, fun _ => terminated⟩
  | failed _ _ _ terminated kept => exact ⟨kept, nofun, by rw [terminated]; exact .terminate _, nofun⟩
  | stalled _ _ terminated kept => exact ⟨kept, nofun, by rw [terminated]; exact .terminate _, nofun⟩
  | codec =>
    have ended : FrameCodec.IoEnded (onCodec FrameCodec.flush socket).1 := socket.frameCodec.flush_ended
    refine ⟨(flush_writesOnly socket).toReadSideKept, ?_, .refl _, ?_⟩
    · intro site panicked
      rw [panicked] at ended
      cases ended
    · intro closed
      rw [closed] at ended
      cases ended

/-- On a socket that is not closing, flushing leaves the state alone. -/
theorem flush_of_canRead {socket : WebSocket} (canRead : socket.state.canRead = true) :
    flush socket = onCodec FrameCodec.flush socket := by
  rw [flush, if_neg]
  rintro ⟨_, cannot⟩
  exact cannot canRead

/-- `close`, on an active socket and on any other. -/
theorem close_cases (code : Option CloseFrame) (socket : WebSocket) :
    (socket.state = .Active ∧ WritesOnly { socket with state := .ClosedByUs } (close code socket).2 ∧
      Wrote .ClosedByUs (close code socket).1) ∨
    (socket.state ≠ .Active ∧ close code socket = flush socket) := by
  unfold close
  by_cases active : socket.state = .Active
  · rw [if_pos active]
    let closing : WebSocket := { socket with state := .ClosedByUs }
    have writes := writeFrame_writesOnly (Frame.close code) closing
    refine .inl ⟨active, ?_⟩
    -- the state has moved before the frame is written, and stays so if that fails
    rcases Lib.andThen_cases (writeFrame (Frame.close code) closing) fun _ socket => flush socket with
      ⟨_, _, run⟩ | ⟨stop, stopped, run⟩
    · have state : (writeFrame (Frame.close code) closing).2.state = .ClosedByUs := writes.state
      rw [run, flush_of_canRead (by rw [state]; rfl)]
      have ended := FrameCodec.flush_ended (writeFrame (Frame.close code) closing).2.frameCodec
      refine ⟨writes.trans _ _ _ (flush_writesOnly _), ?_⟩
      show Wrote .ClosedByUs (FrameCodec.flush _).1
      generalize (FrameCodec.flush (writeFrame (Frame.close code) closing).2.frameCodec).1 = result at ended
      cases ended with
      | ok => exact .ok
      | failed error =>
        have canRead : WebSocketState.ClosedByUs.canRead = true := rfl
        rw [← ioError_of_canRead canRead]
        exact .failed error
      | stalled => exact .stalled
    · have wrote := writeFrame_wrote (Frame.close code) closing
      rw [run]
      refine ⟨writes, ?_⟩
      generalize (writeFrame (Frame.close code) closing).1 = result at wrote stopped
      cases wrote with
      | ok => cases stopped
      | failed error => cases stopped; exact .failed error
      | stalled => cases stopped; exact .stalled
  · rw [if_neg active]
    exact .inr ⟨active, rfl⟩

theorem close_quiet (code : Option CloseFrame) (socket : WebSocket) : Quiet socket (close code socket) := by
  rcases close_cases code socket with ⟨active, writes, wrote⟩ | ⟨_, run⟩
  · refine ⟨⟨writes.role, writes.incomplete, writes.config, writes.inner⟩, ?_, ?_, ?_⟩
    · intro site panicked
      rw [panicked] at wrote
      cases wrote
    · rw [writes.state, active]
      exact .closeByUs
    · intro closed
      rw [closed] at wrote
      generalize same : (.err .ConnectionClosed : Result Unit) = result at wrote
      cases wrote with
      | ok => cases same
      | failed error => cases same
      | stalled => cases same
  · rw [run]
    exact flush_quiet socket

/-- What `write` does, by the state of the connection and the message. -/
inductive Written (message : Message) (socket : WebSocket) : Result Unit × WebSocket → Prop
  | terminated (terminated : socket.state = .Terminated) : Written message socket (.err .AlreadyClosed, socket)
  | refused (inactive : socket.state ≠ .Active) : Written message socket (.err (.Protocol .SendAfterClosing), socket)
  | closes (active : socket.state = .Active) {code : Option CloseFrame} (asked : message = .Close code) :
    Written message socket (close code socket)
  | framed (active : socket.state = .Active) (frame : Frame) : Written message socket (writeFrame frame socket)

theorem write_written (message : Message) (socket : WebSocket) : Written message socket (write message socket) := by
  unfold write
  cases state : socket.state with
  | Terminated => exact .terminated state
  | Active =>
    cases message with
    | Close code => exact .closes state rfl
    | Text data | Binary data | Ping data | Pong data | Frame data => exact .framed state _
  | ClosedByUs | ClosedByPeer | CloseAcknowledged => exact .refused (by rw [state]; nofun)

/-- On a connection that is not active, a write changes nothing. -/
theorem write_refused {message : Message} {socket : WebSocket} (inactive : socket.state ≠ .Active) :
    ∃ error, write message socket = (.err error, socket) := by
  have written := write_written message socket
  generalize write message socket = result at written ⊢
  cases written with
  | terminated _ => exact ⟨_, rfl⟩
  | refused _ => exact ⟨_, rfl⟩
  | closes active _ => exact absurd active inactive
  | framed active _ => exact absurd active inactive

theorem write_quiet (message : Message) (socket : WebSocket) : Quiet socket (write message socket) := by
  have written := write_written message socket
  generalize write message socket = result at written ⊢
  cases written with
  | terminated _ => exact ⟨.refl socket, nofun, .refl _, nofun⟩
  | refused _ => exact ⟨.refl socket, nofun, .refl _, nofun⟩
  | @closes _ code _ => exact close_quiet code socket
  | framed active frame => exact writeFrame_quiet (by rw [active]; rfl) frame

/-! ## Reading -/

/-- How sending a reply ends: the flush behind it gives the error of the stream as it is. -/
inductive Replied (state : WebSocketState) : Result Unit → Prop
  | ok : Replied state (.ok ())
  | failedWrite (error : IoError) : Replied state (.err (ioError state error))
  | failedFlush (error : IoError) : Replied state (.err (.Io error))
  | stalled : Replied state .pending

theorem autoSend_replied (reply : Option Frame) (socket : WebSocket) :
    Replied socket.state (autoSend reply socket).1 := by
  cases reply with
  | none => exact .ok
  | some frame =>
    have wrote := writeFrame_wrote frame socket
    show Replied socket.state
      (Lib.andThen (writeFrame frame socket) fun _ socket => onCodec FrameCodec.flush socket).1
    rcases Lib.andThen_cases (writeFrame frame socket) fun _ socket => onCodec FrameCodec.flush socket with
      ⟨_, _, run⟩ | ⟨stop, stopped, run⟩
    · have ended := FrameCodec.flush_ended (writeFrame frame socket).2.frameCodec
      rw [run]
      show Replied socket.state (FrameCodec.flush _).1
      generalize (FrameCodec.flush (writeFrame frame socket).2.frameCodec).1 = result at ended
      cases ended with
      | ok => exact .ok
      | failed error => exact .failedFlush error
      | stalled => exact .stalled
    · rw [run]
      generalize (writeFrame frame socket).1 = result at wrote stopped
      cases wrote with
      | ok => cases stopped
      | failed error => cases stopped; exact .failedWrite error
      | stalled => cases stopped; exact .stalled

/-- The end of a round with a message. -/
theorem reply_cases {state : WebSocketState} {message : Option Message} {sent : Result Unit × WebSocket}
    (replied : Replied state sent.1) :
    (Lib.andThen sent fun _ socket => ((.ok message : Reply), socket)).2 = sent.2 ∧
    ((Lib.andThen sent fun _ socket => ((.ok message : Reply), socket)).1 = .ok message ∨
      (∃ error, (Lib.andThen sent fun _ socket => ((.ok message : Reply), socket)).1 = .err (ioError state error)) ∨
      (∃ error, (Lib.andThen sent fun _ socket => ((.ok message : Reply), socket)).1 = .err (.Io error)) ∨
      (Lib.andThen sent fun _ socket => ((.ok message : Reply), socket)).1 = .pending) := by
  obtain ⟨result, socket⟩ := sent
  cases replied with
  | ok => exact ⟨rfl, .inl rfl⟩
  | failedWrite error => exact ⟨rfl, .inr (.inl ⟨error, rfl⟩)⟩
  | failedFlush error => exact ⟨rfl, .inr (.inr (.inl ⟨error, rfl⟩))⟩
  | stalled => exact ⟨rfl, .inr (.inr (.inr rfl))⟩

/-- A reply goes out on the write side. -/
theorem reply_writesOnly (reply : Option Frame) (message : Option Message) (socket : WebSocket) :
    WritesOnly socket (Lib.andThen (autoSend reply socket) fun _ socket => ((.ok message : Reply), socket)).2 := by
  rw [(reply_cases (autoSend_replied reply socket)).1]
  exact autoSend_writesOnly reply socket

/-- The reader moves on by a call of `next`, and the reply leaves it alone. -/
theorem Rounded.inner {target : Target} {socket : WebSocket} {result : Reply × WebSocket}
    (rounded : Rounded target socket result) :
    result.2.frameCodec.inner = (FramedRead.next target socket.frameCodec.inner).2 := by
  cases rounded with
  | accepted canRead came grown shorter allowed delivers pending wellFormed =>
    rw [(reply_writesOnly _ _ _).inner, came]
    rfl
  | panics came =>
    rw [came]
    rfl
  | waits came | failed came | eof came | refused _ came | closed _ came | rejected _ came =>
    rw [came]
    rfl

/-- A round that does not wait has not waited for the reader. -/
theorem Rounded.next_returns {target : Target} {socket : WebSocket} {result : Reply × WebSocket}
    (rounded : Rounded target socket result) (returns : result.1 ≠ .pending) :
    (FramedRead.next target socket.frameCodec.inner).1 ≠ .pending := by
  cases rounded with
  | waits => exact absurd rfl returns
  | panics came | failed came | eof came | refused _ came | closed _ came | rejected _ came | accepted _ came =>
    rw [came]
    intro same
    cases same

theorem Rounded.wellFormed {target : Target} {socket : WebSocket} {result : Reply × WebSocket}
    (wellFormed : socket.WellFormed) (rounded : Rounded target socket result) : result.2.WellFormed := by
  cases rounded with
  | rejected canRead came grown notAllowed refused => exact refused.wellFormed
  | accepted canRead came grown shorter allowed delivers pending stillWellFormed =>
    unfold WellFormed
    rw [(reply_writesOnly _ _ _).incomplete]
    exact stillWellFormed
  | _ => exact wellFormed

theorem Rounded.panic {target : Target} {socket : WebSocket} {result : Reply × WebSocket}
    (rounded : Rounded target socket result) {site : Panic} (panicked : result.1 = .panic site) :
    site = .capacityOverflow ∧ target.capacity ≠ none := by
  cases rounded with
  | panics came same =>
    cases panicked
    exact FramedRead.next_panic (congrArg Prod.fst came)
  | accepted canRead came grown shorter allowed delivers pending wellFormed =>
    rcases (reply_cases (autoSend_replied _ _)).2 with done | ⟨_, failed⟩ | ⟨_, failed⟩ | stalled
    · rw [done] at panicked
      cases panicked
    · rw [failed] at panicked
      cases panicked
    · rw [failed] at panicked
      cases panicked
    · rw [stalled] at panicked
      cases panicked
  | _ => cases panicked

theorem Rounded.forward {target : Target} {socket : WebSocket} {result : Reply × WebSocket}
    (rounded : Rounded target socket result) : Forward socket.state result.2.state := by
  cases rounded with
  | eof => exact .terminate _
  | accepted canRead came grown shorter allowed delivers pending wellFormed =>
    rw [(reply_writesOnly _ _ _).state]
    exact .stateAfter canRead _
  | _ => exact .refl _

theorem Rounded.role {target : Target} {socket : WebSocket} {result : Reply × WebSocket}
    (rounded : Rounded target socket result) : result.2.role = socket.role := by
  cases rounded with
  | accepted => exact (reply_writesOnly _ _ _).role
  | _ => rfl

/-! ## Steps -/

/-- The replies of the operations that only write. -/
def asUnitReply (result : Result Unit × WebSocket) : Reply × WebSocket :=
  result.map (Lib.Outcome.map fun _ => none) id

/-- What a step does, by its operation. -/
inductive Stepped (target : Target) (socket : WebSocket) : Op → Reply × WebSocket → Prop
  | terminated (state : socket.state = .Terminated) :
    Stepped target socket .read (.err .AlreadyClosed, socket)
  | closing (state : socket.state ≠ .Terminated) (role : socket.role = .Server) (closed : socket.state.canRead = false) :
    Stepped target socket .read (.err .ConnectionClosed, { socket with state := .Terminated })
  | read {last : WebSocket} {result : Reply × WebSocket} (state : socket.state ≠ .Terminated)
    (reads : socket.role = .Client ∨ socket.state.canRead = true) (silent : Silent target socket last)
    (wellFormed : last.WellFormed) (rounded : Rounded target last result) : Stepped target socket .read result
  | write (message : Message) : Stepped target socket (.write message) (asUnitReply (write message socket))
  | flush : Stepped target socket .flush (asUnitReply (flush socket))
  | close (code : Option CloseFrame) : Stepped target socket (.close code) (asUnitReply (close code socket))
  | setConfig (setFunc : WebSocketConfig → WebSocketConfig) :
    Stepped target socket (.setConfig setFunc) (.ok none, setConfig setFunc socket)

theorem perform_stepped (target : Target) (op : Op) {socket : WebSocket} (wellFormed : socket.WellFormed) :
    Stepped target socket op (perform target op socket) := by
  cases op with
  | read =>
    rcases read_ends target wellFormed with ⟨state, run⟩ | ⟨state, role, closed, run⟩ |
      ⟨state, reads, last, silent, lastWellFormed, rounded⟩
    · rw [perform, run]
      exact .terminated state
    · rw [perform, run]
      exact .closing state role closed
    · exact .read state reads silent lastWellFormed rounded
  | write message => exact .write message
  | flush => exact .flush
  | close code => exact .close code
  | setConfig setFunc => exact .setConfig setFunc

theorem install_wellFormed {socket : WebSocket} (wellFormed : socket.WellFormed) (call : Call) :
    (install call socket).WellFormed := wellFormed

theorem step_stepped (target : Target) {socket : WebSocket} (wellFormed : socket.WellFormed) (call : Call) :
    Stepped target (install call socket) call.op (step target socket call) :=
  perform_stepped target call.op (install_wellFormed wellFormed call)

theorem wellFormed_of_kept {before after : WebSocket} (kept : ReadSideKept before after)
    (wellFormed : before.WellFormed) : after.WellFormed := by
  unfold WellFormed
  rw [kept.incomplete]
  exact wellFormed

theorem Stepped.wellFormed {target : Target} {socket : WebSocket} {op : Op} {result : Reply × WebSocket}
    (before : socket.WellFormed) (stepped : Stepped target socket op result) : result.2.WellFormed := by
  cases stepped with
  | terminated => exact before
  | closing => exact before
  | read state reads silent lastWellFormed rounded => exact rounded.wellFormed lastWellFormed
  | write message => exact wellFormed_of_kept (write_quiet message socket).kept before
  | flush => exact wellFormed_of_kept (flush_quiet socket).kept before
  | close code => exact wellFormed_of_kept (close_quiet code socket).kept before
  | setConfig => exact before

/-- A socket keeps its role. -/
theorem Stepped.role {target : Target} {socket : WebSocket} {op : Op} {result : Reply × WebSocket}
    (stepped : Stepped target socket op result) : result.2.role = socket.role := by
  cases stepped with
  | read state reads silent wellFormed rounded =>
    obtain ⟨after, incomplete, rfl⟩ := silent.keeps
    exact rounded.role
  | write message => exact (write_quiet message socket).kept.role
  | flush => exact (flush_quiet socket).kept.role
  | close code => exact (close_quiet code socket).kept.role
  | _ => rfl

theorem asUnitReply_panic {result : Result Unit × WebSocket} (noPanic : Lib.NoPanic result) (site : Panic) :
    (asUnitReply result).1 ≠ .panic site := by
  intro panicked
  obtain ⟨outcome, socket⟩ := result
  cases outcome with
  | panic other => exact noPanic other rfl
  | ok value => cases panicked
  | err error => cases panicked
  | pending => cases panicked

theorem asUnitReply_message (result : Result Unit × WebSocket) (message : Message) :
    (asUnitReply result).1 ≠ .ok (some message) := by
  obtain ⟨outcome, socket⟩ := result
  cases outcome <;> exact nofun

theorem Stepped.panic {target : Target} {socket : WebSocket} {op : Op} {result : Reply × WebSocket}
    (stepped : Stepped target socket op result) {site : Panic} (panicked : result.1 = .panic site) :
    site = .capacityOverflow ∧ target.capacity ≠ none := by
  cases stepped with
  | read state reads silent lastWellFormed rounded => exact rounded.panic panicked
  | write message => exact absurd panicked (asUnitReply_panic (write_quiet message socket).noPanic site)
  | flush => exact absurd panicked (asUnitReply_panic (flush_quiet socket).noPanic site)
  | close code => exact absurd panicked (asUnitReply_panic (close_quiet code socket).noPanic site)
  | _ => cases panicked

/-! ## Runs -/

/-- The socket after a run of calls on a new one. -/
def reached (target : Target) (stream : Stream) (role : Role) (config : Option WebSocketConfig)
    (calls : List Call) : WebSocket :=
  Lib.final (step target) (fromRawSocket stream role config) calls

theorem reached_wellFormed (target : Target) (stream : Stream) (role : Role) (config : Option WebSocketConfig)
    (calls : List Call) : (reached target stream role config calls).WellFormed :=
  have initial := fromRawSocket_wellFormed stream role config
  have preserved : ∀ socket call, socket.WellFormed → (step target socket call).2.WellFormed :=
    fun _ call wellFormed => (step_stepped target wellFormed call).wellFormed (install_wellFormed wellFormed call)
  Lib.final_preserves preserved calls initial

end WebSocket

end MonoioTungstenite
