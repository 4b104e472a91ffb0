import MonoioTungstenite.Receive

/-! # What a read can do

`FramedRead.next_came` lists the ways a call of the reader ends, `readMessageFrame_arrived` the ways
`readMessageFrame` does.  The loop of `read` goes through rounds without a message (`Silent`) and a last one
(`Rounded`): `read_ends`, for what is shown of every read. -/

namespace MonoioTungstenite

open Lib.Utf8 Reassembly

/-! ## The reader -/

/-- The errors of the decoder refuse a frame. -/
theorem FrameDecoder.IsDecodeError.refusal {error : Error} (isDecodeError : IsDecodeError (.err error)) :
    Refusal error := by
  cases error with
  | Protocol | Capacity | Utf8 => trivial
  | ConnectionClosed | AlreadyClosed | Io => exact isDecodeError

namespace FramedRead

/-- How a call of `next` ends, and what it adds to the history.  It uses up an action for a frame. -/
inductive Came (reader : FramedRead) : Result (Option Frame) × FramedRead → Prop
  | waits {after : FramedRead} (same : after.history = reader.history) : Came reader (.pending, after)
  | panics {site : Panic} {after : FramedRead} (same : after.history = reader.history) : Came reader (.panic site, after)
  | failed {error : IoError} {after : FramedRead} (same : after.history = reader.history) :
    Came reader (.err (.Io error), after)
  | refused {header : Option FrameHeader} {error : Error} {after : FramedRead} (refusal : Refusal error)
    (grown : after.history = reader.history ++ [.refused header error]) : Came reader (.err error, after)
  | eof {after : FramedRead} (same : after.history = reader.history) : Came reader (.ok none, after)
  | frame {frame : Frame} {after : FramedRead} (grown : after.history = reader.history ++ [.frame frame])
    (shorter : after.script.length < reader.script.length) : Came reader (.ok (some frame), after)

/-- An action that only fills the buffer or moves the decoder leaves the rest to the actions behind it. -/
theorem Came.behind {first reader : FramedRead} {result : Result (Option Frame) × FramedRead}
    (came : Came reader result) (same : reader.history = first.history)
    (shorter : reader.script.length ≤ first.script.length) : Came first result := by
  cases came with
  | waits kept => exact .waits (kept.trans same)
  | panics kept => exact .panics (kept.trans same)
  | failed kept => exact .failed (kept.trans same)
  | refused refusal grown => exact .refused refusal (same ▸ grown)
  | eof kept => exact .eof (kept.trans same)
  | frame grown less => exact .frame (same ▸ grown) (Nat.lt_of_lt_of_le less shorter)

theorem run_came (target : Target) (script : List ReadAction) (reader : FramedRead)
    (starts : reader.script = script) : Came reader (run target script reader) := by
  induction script generalizing reader with
  | nil => exact .waits rfl
  | cons action script inductionHypothesis =>
    have less : script.length < reader.script.length := by rw [starts]; simp
    cases action with
    | fill chunk => exact (inductionHypothesis _ rfl).behind rfl (Nat.le_of_lt less)
    | frame frame => exact .frame rfl less
    | eof =>
      rw [run]
      split
      next => exact .eof rfl
      next => exact .failed rfl
    | fail error => exact .failed rfl
    | decode =>
      have returns := FrameDecoder.decode_returns target reader.decoder reader.buffer
      rw [run]
      rcases called : reader.decoder.decode target reader.buffer with
        ⟨(frame | _ | _) | error | site | _, decoder, buffer⟩
      · exact .frame rfl less
      · exact (inductionHypothesis _ rfl).behind rfl (Nat.le_of_lt less)
      · exact (inductionHypothesis _ rfl).behind rfl (Nat.le_of_lt less)
      · have isDecodeError := FrameDecoder.decode_err (congrArg Prod.fst called)
        exact .refused isDecodeError.refusal rfl
      · exact .panics rfl
      · rw [called] at returns
        exact absurd rfl returns

theorem next_came (target : Target) (reader : FramedRead) : Came reader (next target reader) := by
  rw [next]
  split
  next => exact .eof rfl
  next => exact run_came target reader.script reader rfl

theorem run_panic {target : Target} {script : List ReadAction} {reader : FramedRead} {site : Panic}
    (panicked : (run target script reader).1 = .panic site) :
    site = .capacityOverflow ∧ target.capacity ≠ none := by
  induction script generalizing reader with
  | nil => cases panicked
  | cons action script inductionHypothesis =>
    cases action with
    | fill chunk => exact inductionHypothesis panicked
    | frame frame => cases panicked
    | eof =>
      rw [run] at panicked
      split at panicked <;> cases panicked
    | fail error => cases panicked
    | decode =>
      rw [run] at panicked
      rcases called : reader.decoder.decode target reader.buffer with
        ⟨(frame | _ | _) | error | site | _, decoder, buffer⟩ <;> rw [called] at panicked
      · cases panicked
      · exact inductionHypothesis panicked
      · exact inductionHypothesis panicked
      · cases panicked
      · cases panicked
        exact FrameDecoder.decode_panic (congrArg Prod.fst called)
      · cases panicked

theorem next_panic {target : Target} {reader : FramedRead} {site : Panic}
    (panicked : (next target reader).1 = .panic site) : site = .capacityOverflow ∧ target.capacity ≠ none := by
  rw [next] at panicked
  split at panicked
  next => cases panicked
  next => exact run_panic panicked

end FramedRead

/-! ## One frame -/

namespace WebSocket

/-- The socket after its reader has come to `after`. -/
def withReader (socket : WebSocket) (after : FramedRead) : WebSocket :=
  { socket with frameCodec.inner := after }

section WithReader

variable (socket : WebSocket) (after : FramedRead)

@[simp] theorem withReader_state : (socket.withReader after).state = socket.state := rfl
@[simp] theorem withReader_role : (socket.withReader after).role = socket.role := rfl
@[simp] theorem withReader_config : (socket.withReader after).config = socket.config := rfl
@[simp] theorem withReader_incomplete : (socket.withReader after).incomplete = socket.incomplete := rfl
@[simp] theorem withReader_inner : (socket.withReader after).frameCodec.inner = after := rfl
@[simp] theorem withReader_pending : (socket.withReader after).pending = socket.pending := rfl
@[simp] theorem withReader_rules (target : Target) : (socket.withReader after).rules target = socket.rules target := rfl
@[simp] theorem withReader_wellFormed : (socket.withReader after).WellFormed ↔ socket.WellFormed := Iff.rfl

end WithReader

/-- The error with which a failure of the stream reaches the caller. -/
def ioError (state : WebSocketState) (error : IoError) : Error :=
  if ¬ state.canRead ∧ error.kind = .ConnectionReset then .ConnectionClosed else .Io error

/-- The error at the end of the stream. -/
def eofError : WebSocketState → Error
  | .ClosedByPeer | .CloseAcknowledged => .ConnectionClosed
  | _ => .Protocol .ResetWithoutClosingHandshake

/-- How `readMessageFrame` ends: as the reader does, or with the frame that has come out of it. -/
inductive Arrived (target : Target) (socket : WebSocket) :
    Result (Option Message × Option Frame) × WebSocket → Prop
  | waits {after : FramedRead} (came : FramedRead.next target socket.frameCodec.inner = (.pending, after))
    (same : after.history = socket.frameCodec.inner.history) :
    Arrived target socket (.pending, socket.withReader after)
  | panics {site : Panic} {after : FramedRead}
    (panicked : FramedRead.next target socket.frameCodec.inner = (.panic site, after))
    (same : after.history = socket.frameCodec.inner.history) :
    Arrived target socket (.panic site, socket.withReader after)
  | failed {error : IoError} {after : FramedRead}
    (came : FramedRead.next target socket.frameCodec.inner = (.err (.Io error), after))
    (same : after.history = socket.frameCodec.inner.history) :
    Arrived target socket (.err (ioError socket.state error), socket.withReader after)
  | refused {header : Option FrameHeader} {error : Error} {after : FramedRead} (refusal : Refusal error)
    (came : FramedRead.next target socket.frameCodec.inner = (.err error, after))
    (grown : after.history = socket.frameCodec.inner.history ++ [.refused header error]) :
    Arrived target socket (.err error, socket.withReader after)
  | eof {after : FramedRead} (came : FramedRead.next target socket.frameCodec.inner = (.ok none, after))
    (same : after.history = socket.frameCodec.inner.history) :
    Arrived target socket (.err (eofError socket.state), { socket.withReader after with state := .Terminated })
  | closed {frame : Frame} {after : FramedRead} (closed : socket.state.canRead = false)
    (came : FramedRead.next target socket.frameCodec.inner = (.ok (some frame), after))
    (grown : after.history = socket.frameCodec.inner.history ++ [.frame frame]) :
    Arrived target socket (.err (.Protocol .ReceivedAfterClosing), socket.withReader after)
  | frame {frame : Frame} {after : FramedRead} (canRead : socket.state.canRead = true)
    (came : FramedRead.next target socket.frameCodec.inner = (.ok (some frame), after))
    (grown : after.history = socket.frameCodec.inner.history ++ [.frame frame])
    (shorter : after.script.length < socket.frameCodec.inner.script.length) :
    Arrived target socket (receiveFrame target frame (socket.withReader after))

theorem checkConnectionReset_io {α : Type} (state : WebSocketState) (error : IoError) :
    checkConnectionReset state (.err (.Io error) : Result α) = .err (ioError state error) := by
  simp only [checkConnectionReset, ioError]
  split <;> rfl

theorem checkConnectionReset_refusal {α : Type} (state : WebSocketState) {error : Error} (refusal : Refusal error) :
    checkConnectionReset state (.err error : Result α) = .err error := by
  cases error <;> first | rfl | exact refusal.elim

theorem readMessageFrame_arrived (target : Target) (socket : WebSocket) :
    Arrived target socket (readMessageFrame target socket) := by
  have came := FramedRead.next_came target socket.frameCodec.inner
  unfold readMessageFrame onReader
  rcases called : FramedRead.next target socket.frameCodec.inner with ⟨result, after⟩
  rw [called] at came
  cases came with
  | waits same => exact .waits called same
  | panics same => exact .panics called same
  | failed same =>
    simp only [Prod.map_apply, id, checkConnectionReset_io, Lib.andThen_err]
    exact .failed called same
  | refused refusal grown =>
    simp only [Prod.map_apply, id, checkConnectionReset_refusal _ refusal, Lib.andThen_err]
    exact .refused refusal called grown
  | eof same =>
    have ended : Arrived target socket _ := .eof called same
    simp only [Prod.map_apply, id, checkConnectionReset, Lib.andThen_ok]
    cases state : socket.state <;> rw [state] at ended <;> exact ended
  | frame grown shorter =>
    cases canRead : socket.state.canRead with
    | true => exact .frame canRead called grown shorter
    | false =>
      have closed : Arrived target socket _ := .closed canRead called grown
      simp only [Prod.map_apply, id, checkConnectionReset, Lib.andThen_ok, receiveFrame, canRead]
      exact closed

/-! ## Writing on the side -/

/-- What belongs to reading has not changed. -/
structure ReadSideKept (before after : WebSocket) : Prop where
  role : after.role = before.role
  incomplete : after.incomplete = before.incomplete
  config : after.config = before.config
  inner : after.frameCodec.inner = before.frameCodec.inner

theorem ReadSideKept.refl (socket : WebSocket) : ReadSideKept socket socket := ⟨rfl, rfl, rfl, rfl⟩

theorem ReadSideKept.trans (first second third : WebSocket) (left : ReadSideKept first second)
    (right : ReadSideKept second third) : ReadSideKept first third :=
  ⟨right.role.trans left.role, right.incomplete.trans left.incomplete, right.config.trans left.config,
    right.inner.trans left.inner⟩

/-- Nothing but the write side of the socket has changed. -/
structure WritesOnly (before after : WebSocket) : Prop extends ReadSideKept before after where
  state : after.state = before.state

theorem WritesOnly.refl (socket : WebSocket) : WritesOnly socket socket := ⟨.refl socket, rfl⟩

theorem WritesOnly.trans (first second third : WebSocket) (left : WritesOnly first second)
    (right : WritesOnly second third) : WritesOnly first third :=
  ⟨left.toReadSideKept.trans _ _ _ right.toReadSideKept, right.state.trans left.state⟩

theorem onCodec_writesOnly {call : FrameCodec → Result Unit × FrameCodec}
    (inner : ∀ codec, (call codec).2.inner = codec.inner) (socket : WebSocket) :
    WritesOnly socket (onCodec call socket).2 := ⟨⟨rfl, rfl, rfl, inner _⟩, rfl⟩

theorem send_inner (frame : Frame) (codec : FrameCodec) : (codec.send frame).2.inner = codec.inner := by
  have sent := codec.send_sent frame
  generalize codec.send frame = result at sent
  cases sent with
  | appended => rfl
  | flushed | stopped => exact codec.flush_untouched.inner

theorem flush_writesOnly (socket : WebSocket) : WritesOnly socket (onCodec FrameCodec.flush socket).2 :=
  onCodec_writesOnly (fun codec => codec.flush_untouched.inner) socket

theorem writeFrame_writesOnly (frame : Frame) (socket : WebSocket) :
    WritesOnly socket (writeFrame frame socket).2 :=
  ⟨⟨rfl, rfl, rfl, send_inner _ _⟩, rfl⟩

theorem autoSend_writesOnly (reply : Option Frame) (socket : WebSocket) :
    WritesOnly socket (autoSend reply socket).2 := by
  cases reply with
  | none => exact .refl socket
  | some frame =>
    exact Lib.andThen_relates WritesOnly WritesOnly.trans (writeFrame_writesOnly frame socket)
      fun _ socket => flush_writesOnly socket

/-! ## Rounds -/

/-- The socket after a frame has been handled: the reader has moved on, and the pending message may have
changed. -/
def handled (socket : WebSocket) (after : FramedRead) (incomplete : Option IncompleteMessage) : WebSocket :=
  { socket.withReader after with incomplete }

/-- The socket after a message, before the reply to it is sent. -/
def delivered (socket : WebSocket) (after : FramedRead) (incomplete : Option IncompleteMessage)
    (message : Option Message) : WebSocket :=
  { socket.handled after incomplete with state := stateAfter socket.state message }

/-- How a round of `read` ends, on a socket that is well formed. -/
inductive Rounded (target : Target) (socket : WebSocket) : Result (Option Message) × WebSocket → Prop
  | waits {after : FramedRead} (came : FramedRead.next target socket.frameCodec.inner = (.pending, after))
    (same : after.history = socket.frameCodec.inner.history) :
    Rounded target socket (.pending, socket.withReader after)
  | panics {site : Panic} {after : FramedRead}
    (panicked : FramedRead.next target socket.frameCodec.inner = (.panic site, after))
    (same : after.history = socket.frameCodec.inner.history) :
    Rounded target socket (.panic site, socket.withReader after)
  | failed {error : IoError} {after : FramedRead}
    (came : FramedRead.next target socket.frameCodec.inner = (.err (.Io error), after))
    (same : after.history = socket.frameCodec.inner.history) :
    Rounded target socket (.err (ioError socket.state error), socket.withReader after)
  | eof {after : FramedRead} (came : FramedRead.next target socket.frameCodec.inner = (.ok none, after))
    (same : after.history = socket.frameCodec.inner.history) :
    Rounded target socket (.err (eofError socket.state), { socket.withReader after with state := .Terminated })
  | refused {header : Option FrameHeader} {error : Error} {after : FramedRead} (refusal : Refusal error)
    (came : FramedRead.next target socket.frameCodec.inner = (.err error, after))
    (grown : after.history = socket.frameCodec.inner.history ++ [.refused header error]) :
    Rounded target socket (.err error, socket.withReader after)
  | closed {frame : Frame} {after : FramedRead} (closed : socket.state.canRead = false)
    (came : FramedRead.next target socket.frameCodec.inner = (.ok (some frame), after))
    (grown : after.history = socket.frameCodec.inner.history ++ [.frame frame]) :
    Rounded target socket (.err (.Protocol .ReceivedAfterClosing), socket.withReader after)
  | rejected {frame : Frame} {after : FramedRead} {error : Error} {incomplete : Option IncompleteMessage}
    (canRead : socket.state.canRead = true)
    (came : FramedRead.next target socket.frameCodec.inner = (.ok (some frame), after))
    (grown : after.history = socket.frameCodec.inner.history ++ [.frame frame])
    (notAllowed : ¬ Allowed (socket.rules target) socket.pending frame)
    (refused : Refused target frame (socket.withReader after) (.err error, socket.handled after incomplete)) :
    Rounded target socket (.err error, socket.handled after incomplete)
  | accepted {frame : Frame} {after : FramedRead} {message : Option Message}
    {incomplete : Option IncompleteMessage} (canRead : socket.state.canRead = true)
    (came : FramedRead.next target socket.frameCodec.inner = (.ok (some frame), after))
    (grown : after.history = socket.frameCodec.inner.history ++ [.frame frame])
    (shorter : after.script.length < socket.frameCodec.inner.script.length)
    (allowed : Allowed (socket.rules target) socket.pending frame)
    (delivers : message = (next (socket.rules target) socket.pending frame).1)
    (pending : (socket.delivered after incomplete message).pending =
      (next (socket.rules target) socket.pending frame).2)
    (wellFormed : (socket.delivered after incomplete message).WellFormed) :
    Rounded target socket
      (Lib.andThen (autoSend (replyTo socket.state message) (socket.delivered after incomplete message))
        fun _ socket => (.ok message, socket))

theorem readRound_rounded (target : Target) {socket : WebSocket} (wellFormed : socket.WellFormed) :
    Rounded target socket (readRound target socket) := by
  have arrived := readMessageFrame_arrived target socket
  unfold readRound
  generalize readMessageFrame target socket = result at arrived ⊢
  cases arrived with
  | waits came same =>
    rw [Lib.andThen_pending]
    exact .waits came same
  | panics panicked same =>
    rw [Lib.andThen_panic]
    exact .panics panicked same
  | failed came same =>
    rw [Lib.andThen_err]
    exact .failed came same
  | refused refusal came grown =>
    rw [Lib.andThen_err]
    exact .refused refusal came grown
  | eof came same =>
    rw [Lib.andThen_err]
    exact .eof came same
  | closed closed came grown =>
    rw [Lib.andThen_err]
    exact .closed closed came grown
  | @frame frame after canRead came grown shorter =>
    rcases receiveFrame_cases target frame (socket.withReader after) canRead wellFormed with
      ⟨allowed, received⟩ | ⟨notAllowed, refused⟩
    · obtain ⟨stillWellFormed, pending, message, incomplete, delivers, run⟩ := received
      rw [run] at stillWellFormed pending ⊢
      rw [Lib.andThen_ok]
      show Rounded target socket (Lib.andThen
        (autoSend (replyTo socket.state message) (socket.delivered after incomplete message)) _)
      exact .accepted canRead came grown shorter allowed delivers pending stillWellFormed
    · obtain ⟨error, incomplete, _, run, _⟩ := refused.outcome
      rw [run] at refused ⊢
      rw [Lib.andThen_err]
      show Rounded target socket (.err error, socket.handled after incomplete)
      exact .rejected canRead came grown notAllowed refused

/-! ## The loop

A read goes through rounds in which a frame is taken in and nothing is delivered, and ends with a round
of another kind. -/

/-- The rounds that only add a fragment to the pending message. -/
inductive Silent (target : Target) : WebSocket → WebSocket → Prop
  | refl (socket : WebSocket) : Silent target socket socket
  | step {socket last : WebSocket} {frame : Frame} {after : FramedRead} {incomplete : Option IncompleteMessage}
    (canRead : socket.state.canRead = true)
    (came : FramedRead.next target socket.frameCodec.inner = (.ok (some frame), after))
    (grown : after.history = socket.frameCodec.inner.history ++ [.frame frame])
    (allowed : Allowed (socket.rules target) socket.pending frame)
    (delivers : (next (socket.rules target) socket.pending frame).1 = none)
    (pending : (socket.handled after incomplete).pending = (next (socket.rules target) socket.pending frame).2)
    (wellFormed : (socket.handled after incomplete).WellFormed)
    (rest : Silent target (socket.handled after incomplete) last) : Silent target socket last

/-- The reply of the run of a read. -/
def asReply (result : Result Message × WebSocket) : Reply × WebSocket := result.map (Lib.Outcome.map some) id

/-- A message that has been accepted is what the round returns, if it returns at all. -/
theorem reply_value {α : Type} {message value : α} {sent : Result Unit × WebSocket}
    (returned : (Lib.andThen sent fun _ socket => ((.ok message : Result α), socket)).1 = .ok value) :
    message = value ∧ sent.1 = .ok () ∧
      Lib.andThen sent (fun _ socket => ((.ok message : Result α), socket)) = (.ok message, sent.2) := by
  obtain ⟨_, first, second, run⟩ := Lib.andThen_ok_inv returned
  exact ⟨by simpa using second, first, run⟩

/-- A round that delivers nothing is silent. -/
theorem Rounded.silent {target : Target} {socket : WebSocket} {result : Result (Option Message) × WebSocket}
    (rounded : Rounded target socket result) (nothing : result.1 = .ok none) :
    ∃ after incomplete, result.2 = socket.handled after incomplete ∧ result.2.WellFormed ∧
      after.script.length < socket.frameCodec.inner.script.length ∧
      ∀ last, Silent target (socket.handled after incomplete) last → Silent target socket last := by
  cases rounded with
  | accepted canRead came grown shorter allowed delivers pending wellFormed =>
    obtain ⟨rfl, _, run⟩ := reply_value nothing
    rw [run]
    exact ⟨_, _, rfl, wellFormed, shorter,
      fun last rest => .step canRead came grown allowed delivers.symm pending wellFormed rest⟩
  | _ => cases nothing

theorem readLoop_ends (target : Target) (fuel : Nat) {socket : WebSocket} (wellFormed : socket.WellFormed)
    (enough : socket.frameCodec.inner.script.length < fuel) :
    ∃ last, Silent target socket last ∧ last.WellFormed ∧
      Rounded target last (asReply (readLoop target fuel socket)) := by
  induction fuel generalizing socket with
  | zero => exact absurd enough (Nat.not_lt_zero _)
  | succ fuel inductionHypothesis =>
    have rounded := readRound_rounded target wellFormed
    by_cases nothing : (readRound target socket).1 = .ok none
    · obtain ⟨after, incomplete, moved, stillWellFormed, shorter, silent⟩ := rounded.silent nothing
      have goesOn : readLoop target (fuel + 1) socket = readLoop target fuel (readRound target socket).2 := by
        rw [readLoop, show readRound target socket = (.ok none, _) from Prod.ext nothing rfl]
        rfl
      rw [moved] at stillWellFormed goesOn
      obtain ⟨last, rest, lastWellFormed, ends⟩ := inductionHypothesis stillWellFormed
        (show after.script.length < fuel by omega)
      exact ⟨last, silent last rest, lastWellFormed, goesOn ▸ ends⟩
    · have same : asReply (readLoop target (fuel + 1) socket) = readRound target socket := by
        rw [readLoop]
        generalize readRound target socket = result at nothing
        obtain ⟨(_ | message) | error | site | _, after⟩ := result
        · exact absurd rfl nothing
        all_goals rfl
      exact ⟨socket, .refl socket, wellFormed, same ▸ rounded⟩

/-- How a read ends. -/
theorem read_ends (target : Target) {socket : WebSocket} (wellFormed : socket.WellFormed) :
    (socket.state = .Terminated ∧ read target socket = (.err .AlreadyClosed, socket)) ∨
    (socket.state ≠ .Terminated ∧ socket.role = .Server ∧ socket.state.canRead = false ∧
      read target socket = (.err .ConnectionClosed, { socket with state := .Terminated })) ∨
    (socket.state ≠ .Terminated ∧ (socket.role = .Client ∨ socket.state.canRead = true) ∧
      ∃ last, Silent target socket last ∧ last.WellFormed ∧ Rounded target last (asReply (read target socket))) := by
  unfold read
  by_cases terminated : socket.state = .Terminated
  · exact .inl ⟨terminated, if_pos terminated⟩
  rw [if_neg terminated]
  by_cases closing : socket.role = .Server ∧ ¬ socket.state.canRead = true
  · exact .inr (.inl ⟨terminated, closing.1, by simpa using closing.2, if_pos closing⟩)
  · rw [if_neg closing]
    refine .inr (.inr ⟨terminated, ?_, readLoop_ends target _ wellFormed (Nat.lt_succ_self _)⟩)
    cases role : socket.role with
    | Client => exact .inl rfl
    | Server => exact .inr (by simpa [role] using closing)

/-- Silent rounds move the reader and the pending message, and nothing else. -/
theorem Silent.keeps {target : Target} {socket last : WebSocket} (silent : Silent target socket last) :
    ∃ after incomplete, last = socket.handled after incomplete := by
  induction silent with
  | refl socket => exact ⟨socket.frameCodec.inner, socket.incomplete, rfl⟩
  | step canRead came grown allowed delivers pending wellFormed rest inductionHypothesis =>
    obtain ⟨after, incomplete, rfl⟩ := inductionHypothesis
    exact ⟨after, incomplete, rfl⟩

end WebSocket

end MonoioTungstenite
