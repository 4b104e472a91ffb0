import MonoioTungstenite.Lib.Run
import MonoioTungstenite.Reads

/-! # The past of a stream

What a socket does has nothing to do with what its stream has seen before: with other events in front of its log every
step returns the same, and leaves the same socket with the same events in front of its log (`step_logged`). -/

namespace MonoioTungstenite

/-- The stream with these events in front of what it has seen. -/
def Stream.logged (earlier : List StreamEvent) (stream : Stream) : Stream :=
  { stream with log := earlier ++ stream.log }

/-- The codec on such a stream. -/
def FrameCodec.logged (earlier : List StreamEvent) (codec : FrameCodec) : FrameCodec :=
  { codec with io := codec.io.logged earlier }

/-- The socket on such a stream. -/
def WebSocket.logged (earlier : List StreamEvent) (socket : WebSocket) : WebSocket :=
  socket.withCodec (socket.frameCodec.logged earlier)

section Logged

variable (earlier : List StreamEvent)

namespace Stream

theorem accepted_logged (stream : Stream) :
    (stream.logged earlier).accepted = earlier.flatMap StreamEvent.bytes ++ stream.accepted := by
  simp [logged, accepted]

theorem writeAll_logged (buf : List UInt8) (stream : Stream) :
    (stream.logged earlier).writeAll buf = (stream.writeAll buf).map id (logged earlier) := by
  unfold writeAll logged
  cases stream.writes.headD .done <;> simp

theorem flush_logged (stream : Stream) : (stream.logged earlier).flush = stream.flush.map id (logged earlier) := by
  unfold flush logged
  cases stream.flushes.headD .done <;> simp

theorem shutdown_logged (stream : Stream) :
    (stream.logged earlier).shutdown = stream.shutdown.map id (logged earlier) := by
  unfold shutdown logged
  cases stream.shutdowns.headD .done <;> simp

end Stream

namespace FrameCodec

theorem onIo_logged {call : Stream → Result Unit × Stream}
    (commutes : ∀ stream, call (stream.logged earlier) = (call stream).map id (Stream.logged earlier))
    (codec : FrameCodec) : onIo call (codec.logged earlier) = (onIo call codec).map id (logged earlier) := by
  unfold onIo logged
  rw [commutes]
  rfl

theorem flush_logged (codec : FrameCodec) : (codec.logged earlier).flush = codec.flush.map id (logged earlier) := by
  unfold flush
  rw [show (codec.logged earlier).writeBuf = codec.writeBuf from rfl]
  cases codec.writeBuf.isEmpty with
  | true => rfl
  | false =>
    have written := onIo_logged earlier (Stream.writeAll_logged earlier codec.writeBuf) { codec with writeBuf := [] }
    rw [if_neg Bool.false_ne_true, if_neg Bool.false_ne_true]
    dsimp only
    change onIo (Stream.writeAll codec.writeBuf) { codec.logged earlier with writeBuf := [] } = _ at written
    rw [written]
    generalize onIo (Stream.writeAll codec.writeBuf) { codec with writeBuf := [] } = result
    obtain ⟨outcome, after⟩ := result
    cases outcome with
    | ok value => exact onIo_logged earlier (Stream.flush_logged earlier) { after with writeBuf := [] }
    | err | panic | pending => rfl

theorem send_logged (frame : Frame) (codec : FrameCodec) :
    (codec.logged earlier).send frame = (codec.send frame).map id (logged earlier) := by
  unfold send
  have flushed : (if (codec.logged earlier).writeBuf.length > (codec.logged earlier).writeLimit
        then (codec.logged earlier).flush else (.ok (), codec.logged earlier)) =
      (if codec.writeBuf.length > codec.writeLimit then codec.flush else (.ok (), codec)).map id (logged earlier) := by
    rw [show (codec.logged earlier).writeBuf = codec.writeBuf from rfl,
      show (codec.logged earlier).writeLimit = codec.writeLimit from rfl]
    split
    · exact flush_logged earlier codec
    · rfl
  exact Lib.andThen_follows (logged earlier) flushed fun _ _ => rfl

theorem close_logged (codec : FrameCodec) : (codec.logged earlier).close = codec.close.map id (logged earlier) := by
  unfold close
  exact Lib.andThen_follows (logged earlier) (flush_logged earlier codec) fun _ codec =>
    onIo_logged earlier (Stream.shutdown_logged earlier) codec

end FrameCodec

namespace WebSocket

theorem onCodec_logged {α : Type} {call : FrameCodec → Result α × FrameCodec}
    (commutes : ∀ codec, call (codec.logged earlier) = (call codec).map id (FrameCodec.logged earlier))
    (socket : WebSocket) : onCodec call (socket.logged earlier) = (onCodec call socket).map id (logged earlier) := by
  show (call (socket.frameCodec.logged earlier)).map id _ = _
  rw [commutes]
  rfl

theorem writeFrame_logged (frame : Frame) (socket : WebSocket) :
    writeFrame frame (socket.logged earlier) = (writeFrame frame socket).map id (logged earlier) := by
  have sent := onCodec_logged earlier (FrameCodec.send_logged earlier (outgoing frame socket))
    { socket with masks := socket.masksLeft }
  exact congrArg (Prod.map (checkConnectionReset socket.state) id) sent

theorem flush_logged (socket : WebSocket) : flush (socket.logged earlier) = (flush socket).map id (logged earlier) := by
  unfold flush
  rw [show (socket.logged earlier).role = socket.role from rfl, show (socket.logged earlier).state = socket.state from rfl]
  split
  next =>
    have closed := onCodec_logged earlier (FrameCodec.close_logged earlier) { socket with state := .Terminated }
    exact Lib.andThen_follows (logged earlier) closed fun _ _ => rfl
  next => exact onCodec_logged earlier (FrameCodec.flush_logged earlier) socket

theorem close_logged (code : Option CloseFrame) (socket : WebSocket) :
    close code (socket.logged earlier) = (close code socket).map id (logged earlier) := by
  unfold close
  have queued : (if (socket.logged earlier).state = .Active
        then writeFrame (Frame.close code) { socket.logged earlier with state := .ClosedByUs }
        else (.ok (), socket.logged earlier)) =
      (if socket.state = .Active then writeFrame (Frame.close code) { socket with state := .ClosedByUs }
        else (.ok (), socket)).map id (logged earlier) := by
    rw [show (socket.logged earlier).state = socket.state from rfl]
    split
    · exact writeFrame_logged earlier (Frame.close code) { socket with state := .ClosedByUs }
    · rfl
  exact Lib.andThen_follows (logged earlier) queued fun _ socket => flush_logged earlier socket

theorem write_logged (message : Message) (socket : WebSocket) :
    write message (socket.logged earlier) = (write message socket).map id (logged earlier) := by
  unfold write
  rw [show (socket.logged earlier).state = socket.state from rfl]
  split
  next => rfl
  next =>
    split
    next => rfl
    next =>
      cases message with
      | Close code => exact close_logged earlier code socket
      | Text data | Binary data | Ping data | Pong data | Frame data => exact writeFrame_logged earlier _ socket

theorem readMessageFrame_logged (target : Target) (socket : WebSocket) :
    readMessageFrame target (socket.logged earlier) = (readMessageFrame target socket).map id (logged earlier) := by
  unfold readMessageFrame onReader
  rw [show (socket.logged earlier).frameCodec.inner = socket.frameCodec.inner from rfl]
  generalize FramedRead.next target socket.frameCodec.inner = came
  obtain ⟨next, inner⟩ := came
  show Lib.andThen (checkConnectionReset socket.state next, (socket.withReader inner).logged earlier) _ =
    (Lib.andThen (checkConnectionReset socket.state next, socket.withReader inner) _).map id _
  cases checkConnectionReset socket.state next with
  | err | panic | pending => rfl
  | ok arrived =>
    cases arrived with
    | none => cases state : socket.state <;> simp [state, logged, withCodec]
    | some frame =>
      have received := receiveFrame_withCodec ((socket.withReader inner).frameCodec.logged earlier) target frame
        (socket.withReader inner)
      have codec := receiveFrame_codec target frame (socket.withReader inner)
      show receiveFrame target frame ((socket.withReader inner).logged earlier) =
        (receiveFrame target frame (socket.withReader inner)).map id (logged earlier)
      rw [logged, received]
      generalize receiveFrame target frame (socket.withReader inner) = result at codec
      show (_, withCodec _ result.2) = (_, withCodec (result.2.frameCodec.logged earlier) result.2)
      rw [codec]

theorem autoSend_logged (reply : Option Frame) (socket : WebSocket) :
    autoSend reply (socket.logged earlier) = (autoSend reply socket).map id (logged earlier) := by
  cases reply with
  | none => rfl
  | some frame =>
    exact Lib.andThen_follows (logged earlier) (writeFrame_logged earlier frame socket) fun _ socket =>
      onCodec_logged earlier (FrameCodec.flush_logged earlier) socket

theorem readRound_logged (target : Target) (socket : WebSocket) :
    readRound target (socket.logged earlier) = (readRound target socket).map id (logged earlier) := by
  refine Lib.andThen_follows (logged earlier) (readMessageFrame_logged earlier target socket) fun handled socket => ?_
  exact Lib.andThen_follows (logged earlier) (autoSend_logged earlier handled.2 socket) fun _ _ => rfl

theorem readLoop_logged (target : Target) (fuel : Nat) (socket : WebSocket) :
    readLoop target fuel (socket.logged earlier) = (readLoop target fuel socket).map id (logged earlier) := by
  induction fuel generalizing socket with
  | zero => rfl
  | succ fuel ih =>
    refine Lib.andThen_follows (logged earlier) (readRound_logged earlier target socket) fun message socket => ?_
    cases message with
    | some message => rfl
    | none => exact ih socket

theorem read_logged (target : Target) (socket : WebSocket) :
    read target (socket.logged earlier) = (read target socket).map id (logged earlier) := by
  unfold read
  rw [show (socket.logged earlier).role = socket.role from rfl, show (socket.logged earlier).state = socket.state from rfl]
  split
  next => rfl
  next =>
    split
    next => rfl
    next => exact readLoop_logged earlier target _ socket

theorem perform_logged (target : Target) (op : Op) (socket : WebSocket) :
    perform target op (socket.logged earlier) = (perform target op socket).map id (logged earlier) := by
  cases op with
  | read => exact congrArg (Prod.map (Lib.Outcome.map some) id) (read_logged earlier target socket)
  | write message => exact congrArg (Prod.map (Lib.Outcome.map _) id) (write_logged earlier message socket)
  | flush => exact congrArg (Prod.map (Lib.Outcome.map _) id) (flush_logged earlier socket)
  | close code => exact congrArg (Prod.map (Lib.Outcome.map _) id) (close_logged earlier code socket)
  | setConfig setFunc => rfl

/-- A step has nothing to do with what the stream has seen before. -/
theorem step_logged (target : Target) (socket : WebSocket) (call : Call) :
    step target (socket.logged earlier) call = (step target socket call).map id (logged earlier) :=
  perform_logged earlier target call.op (install call socket)

end WebSocket

end Logged

end MonoioTungstenite
