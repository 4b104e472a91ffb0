import MonoioTungstenite.Uses

/-! # Replies that go wrong

What becomes of a close frame and of a message when the stream fails in the middle of a call.  `close`
queues its frame exactly if the buffer has room for it (`close_queues_iff`).  A message is returned exactly
if the reply to it goes out (`messages_returned`): it is kept nowhere else. -/

namespace MonoioTungstenite

open Lib.Utf8 Reassembly

/-! ## Flushes that succeed -/

namespace FrameCodec

/-- A frame that is sent and flushed is going to reach the stream. -/
def GoesOut (codec : FrameCodec) : Prop :=
  codec.io.Obliging ∧ (codec.writeLimit < codec.writeBuf.length → codec.io.answered.Obliging)

instance (codec : FrameCodec) : Decidable codec.GoesOut := inferInstanceAs (Decidable (_ ∧ (_ → _)))

/-- A flush that returns has left the bytes at the end of the buffer where they were, or written them. -/
theorem flush_keeps {codec : FrameCodec} {bytes : List UInt8} (suffix : bytes <:+ codec.writeBuf)
    (returned : codec.flush.1 ≠ .pending) :
    bytes <:+ codec.flush.2.writeBuf ∨ ∃ later, codec.flush.2.io.log = codec.io.log ++ .wrote codec.writeBuf :: later := by
  have flushed := codec.flush_flushed
  generalize codec.flush = result at flushed returned ⊢
  cases flushed with
  | empty => exact .inl suffix
  | dropped => exact absurd rfl returned
  | tore => exact .inl suffix
  | wrote =>
    have marked := onIo_flush_marked { codec.wrote (.wrote codec.writeBuf) with writeBuf := [] }
    generalize onIo Stream.flush { codec.wrote (.wrote codec.writeBuf) with writeBuf := [] } = result at marked
    cases marked with
    | done log => exact .inr ⟨[.flushed], by simp [log, FrameCodec.wrote]⟩
    | failed log => exact .inr ⟨[], by simp [log, FrameCodec.wrote]⟩
    | stalled log => exact .inr ⟨[], by simp [log, FrameCodec.wrote]⟩

theorem flush_grows (codec : FrameCodec) : codec.io.log <+: codec.flush.2.io.log := by
  have flushed := codec.flush_flushed
  generalize codec.flush = result at flushed ⊢
  cases flushed with
  | empty => exact List.prefix_refl _
  | dropped => exact List.prefix_append _ _
  | tore => exact List.prefix_append _ _
  | wrote =>
    have marked := onIo_flush_marked { codec.wrote (.wrote codec.writeBuf) with writeBuf := [] }
    generalize onIo Stream.flush { codec.wrote (.wrote codec.writeBuf) with writeBuf := [] } = result at marked ⊢
    cases marked with
    | done log =>
      rw [log]
      exact (List.prefix_append _ _).trans (List.prefix_append _ _)
    | failed log | stalled log =>
      rw [log]
      exact List.prefix_append _ _

/-- There is no room for another frame where the flush that would make it does not succeed. -/
theorem not_hasRoom {codec : FrameCodec} (exceeds : codec.writeLimit < codec.writeBuf.length)
    (stopped : codec.flush.1 ≠ .ok ()) : ¬ codec.HasRoom := by
  intro room
  exact stopped (codec.flush_ok_iff.mpr (.inr (room.resolve_left (by omega))))

/-- A frame is sent and flushed with success exactly if the stream takes both, and what is in its way. -/
theorem useAll_send_flush_ok_iff (codec : FrameCodec) (frame : Frame) :
    (useAll [.send frame, .flush] codec).1 = .ok () ↔ codec.GoesOut := by
  have nonempty : ∀ codec : FrameCodec, (codec.append frame).writeBuf ≠ [] := by
    intro codec empty
    rw [append, FrameEncoder.encode_eq] at empty
    simp [Frame.encoded, FrameHeader.encoded] at empty
  have behind : ∀ codec : FrameCodec, (codec.append frame).flush.1 = .ok () ↔ codec.io.Obliging := by
    intro codec
    rw [flush_ok_iff, or_iff_right (nonempty codec)]
    rfl
  have run : useAll [.send frame, .flush] codec = Lib.andThen (codec.send frame) fun _ codec => codec.flush := by
    rw [useAll]
    show Lib.andThen (codec.send frame) (fun _ codec => useAll [.flush] codec) = _
    simp only [useAll_single]
    rfl
  rw [run, GoesOut]
  -- a full buffer is flushed before the frame is appended
  have sent := codec.send_sent frame
  generalize codec.send frame = result at sent
  cases sent with
  | appended fits =>
    rw [Lib.andThen_ok, behind]
    exact ⟨fun obliging => ⟨obliging, fun exceeds => absurd fits (by omega)⟩, fun both => both.1⟩
  | flushed exceeds flushed =>
    have buffered : codec.writeBuf ≠ [] := List.length_pos_iff.mp (by omega)
    have obliging := (codec.flush_ok_iff.mp flushed).resolve_left buffered
    rw [Lib.andThen_ok, behind, flush_of_obliging buffered obliging]
    exact ⟨fun second => ⟨obliging, fun _ => second⟩, fun both => both.2 exceeds⟩
  | stopped exceeds stopped =>
    rw [Lib.andThen_of_ne_ok stopped]
    exact iff_of_false stopped fun both => not_hasRoom exceeds stopped (.inr both.1)

end FrameCodec

namespace WebSocket

/-! ## Close frames -/

/-- The close frame has been appended to the write buffer, and is there or has been written to the stream. -/
structure CloseQueued (code : Option CloseFrame) (before after : WebSocket) : Prop where
  appended : after.frameCodec.queued = before.frameCodec.queued ++ [outgoing (Frame.close code) before]
  there : (outgoing (Frame.close code) before).encoded <:+ after.frameCodec.writeBuf ∨
    ∃ earlier bytes later, after.frameCodec.io.log = before.frameCodec.io.log ++ earlier ++ .wrote bytes :: later ∧
      (outgoing (Frame.close code) before).encoded <:+ bytes

/-- What the flush behind a frame that has been appended does with it. -/
theorem closeQueued_of_append {code : Option CloseFrame} {before : WebSocket} {codec : FrameCodec}
    (kept : codec.queued = before.frameCodec.queued)
    (grown : before.frameCodec.io.log <+: codec.io.log) {after : WebSocket}
    (flushed : after.frameCodec = (codec.append (outgoing (Frame.close code) before)).flush.2)
    (returned : (codec.append (outgoing (Frame.close code) before)).flush.1 ≠ .pending) :
    CloseQueued code before after := by
  have suffix : (outgoing (Frame.close code) before).encoded <:+
      (codec.append (outgoing (Frame.close code) before)).writeBuf := by
    rw [FrameCodec.append, FrameEncoder.encode_eq]
    exact List.suffix_append _ _
  obtain ⟨earlier, log⟩ := grown
  constructor
  case appended =>
    rw [flushed, FrameCodec.flush_queued, FrameCodec.append, kept]
  case there =>
    rw [flushed]
    cases FrameCodec.flush_keeps suffix returned with
    | inl held => exact .inl held
    | inr written =>
      obtain ⟨later, written⟩ := written
      refine .inr ⟨earlier, _, later, ?_, suffix⟩
      rw [written, log]
      rfl

/-- A `close` that has returned, on an active socket, has queued its frame exactly if the buffer had room for
it; the state moves in any case. -/
theorem close_queues_iff (code : Option CloseFrame) {socket : WebSocket} (active : socket.state = .Active)
    (returned : (close code socket).1 ≠ .pending) :
    (CloseQueued code socket (close code socket).2 ∨ (close code socket).2.state = .Active) ↔
      socket.frameCodec.HasRoom := by
  have state : (close code socket).2.state ≠ .Active := by
    rw [show (close code socket).2.state = .ClosedByUs from (close_ran code active).state]
    nofun
  rw [or_iff_left state]
  rw [close_of_active code active] at returned ⊢
  -- the masks and the state that `write_frame` sees do not matter for what it sends
  have wrote : writeFrame (Frame.close code) { socket with state := .ClosedByUs } =
      (checkConnectionReset .ClosedByUs (socket.frameCodec.send (outgoing (Frame.close code) socket)).1,
        { socket with
          state := .ClosedByUs
          masks := socket.masksLeft
          frameCodec := (socket.frameCodec.send (outgoing (Frame.close code) socket)).2 }) := rfl
  rw [wrote] at returned ⊢
  have sent := socket.frameCodec.send_sent (outgoing (Frame.close code) socket)
  generalize socket.frameCodec.send (outgoing (Frame.close code) socket) = result at sent returned ⊢
  cases sent with
  | appended fits => exact iff_of_true (closeQueued_of_append rfl (List.prefix_refl _) rfl returned) (.inl fits)
  | flushed exceeds flushed =>
    exact iff_of_true (closeQueued_of_append (FrameCodec.flush_queued _) (FrameCodec.flush_grows _) rfl returned)
      (FrameCodec.hasRoom_of_flush exceeds flushed)
  | stopped exceeds stopped =>
    -- the flush in front of the frame has not succeeded, and `send` gives up
    apply iff_of_false _ (FrameCodec.not_hasRoom exceeds stopped)
    intro queued
    have grown := queued.appended
    have ended := socket.frameCodec.flush_ended
    have same : socket.frameCodec.flush.2.queued = socket.frameCodec.queued := FrameCodec.flush_queued _
    generalize socket.frameCodec.flush.1 = outcome at ended stopped grown
    cases ended with
    | ok => exact stopped rfl
    | failed error =>
      rw [checkConnectionReset_io] at grown
      simp [same] at grown
    | stalled => simp [checkConnectionReset, same] at grown

/-- A client whose stream fails while it closes: the frame stays in the buffer. -/
def closesOnBrokenPipe : WebSocket :=
  install ⟨.close none, [], [.failed 1 ⟨.BrokenPipe⟩], [], [], [⟨1, 2, 3, 4⟩]⟩ (fromRawSocket .new .Client none)

theorem close_queues_iff_brokenPipe :
    (CloseQueued none closesOnBrokenPipe (close none closesOnBrokenPipe).2 ∨
      (close none closesOnBrokenPipe).2.state = .Active) ↔ closesOnBrokenPipe.frameCodec.HasRoom :=
  close_queues_iff none rfl (by decide)

/-- A server without a write buffer that has written a ping and closes on a stream that fails. -/
def closesOverLimit : WebSocket :=
  install ⟨.close none, [], [.failed 0 ⟨.BrokenPipe⟩], [], [], []⟩
    (reached (.unlimited .w64) .new .Server (some { WebSocketConfig.default with writeBufferSize := 0 })
      [.reading (.write (.Ping [1])) []])

/-- The ping stays in the buffer, the close frame never comes there, and the state has moved on. -/
theorem not_closeQueued_overLimit :
    ¬ (CloseQueued none closesOverLimit (close none closesOverLimit).2 ∨
      (close none closesOverLimit).2.state = .Active) := by
  intro queued
  cases queued with
  | inl queued =>
    have appended := queued.appended
    revert appended
    decide
  | inr active =>
    revert active
    decide

/-! ## Messages -/

/-- The message that a call takes in. -/
def acceptedIn (target : Target) (socket : WebSocket) (call : Call) : List Message :=
  match call.op with
  | .read => ((accepts target (install call socket)).map Accepted.message).toList
  | _ => []

/-- The messages that the reads of a run take in, in the order in which they arrive. -/
def acceptedMessages (target : Target) : WebSocket → List Call → List Message
  | _, [] => []
  | socket, call :: calls =>
    acceptedIn target socket call ++ acceptedMessages target (step target socket call).2 calls

/-- The messages that the reads of a run return. -/
def returnedMessages (trace : List (Call × Reply)) : List Message :=
  trace.filterMap fun (_, reply) =>
    match reply with
    | .ok message => message
    | _ => none

/-- The read takes in a message that is answered, and the answer does not go out. -/
def LosesMessage (target : Target) (socket : WebSocket) (call : Call) : Prop :=
  call.op = .read ∧ (∃ accepted, accepts target (install call socket) = some accepted ∧ accepted.reply.isSome = true) ∧
    ¬ (install call socket).frameCodec.GoesOut

/-- A reply goes out exactly if there is none to send, or the stream takes it. -/
theorem autoSend_ok_iff (reply : Option Frame) (socket : WebSocket) :
    (autoSend reply socket).1 = .ok () ↔ reply = none ∨ socket.frameCodec.GoesOut := by
  cases reply with
  | none => exact iff_of_true rfl (.inl rfl)
  | some frame =>
    have ran := autoSend_ran (some frame) socket
    rw [ran.returned, replyUses, FrameCodec.useAll_send_flush_ok_iff]
    simp

theorem returnedMessages_cons (call : Call) (reply : Reply) (trace : List (Call × Reply)) :
    returnedMessages ((call, reply) :: trace) = returnedMessages [(call, reply)] ++ returnedMessages trace :=
  @List.filterMap_append _ _ [(call, reply)] trace _

theorem returnedMessages_none {call : Call} {reply : Reply} (noMessage : ∀ message, reply ≠ .ok (some message)) :
    returnedMessages [(call, reply)] = [] := by
  cases reply with
  | ok message =>
    cases message with
    | none => rfl
    | some message => exact absurd rfl (noMessage message)
  | _ => rfl

/-- What becomes of the message that a read has taken in. -/
theorem Reads.returns {target : Target} {socket : WebSocket} {accepted : Option Accepted}
    {result : Reply × WebSocket} (reads : Reads target socket accepted result) (call : Call) :
    (returnedMessages [(call, result.1)] = (accepted.map Accepted.message).toList ∧
      ∀ taken ∈ accepted, taken.reply = none ∨ socket.frameCodec.GoesOut) ∨
    (returnedMessages [(call, result.1)] = [] ∧ ∃ taken ∈ accepted, taken.reply.isSome = true ∧
      ¬ socket.frameCodec.GoesOut) := by
  cases reads with
  | nothing noMessage codec => exact .inl ⟨returnedMessages_none noMessage, fun taken found => by cases found⟩
  | @accepted last frame after message incomplete silent canRead allowed delivers =>
    have sends := autoSend_ok_iff (replyTo socket.state (some message))
      (last.delivered after incomplete (some message))
    obtain ⟨inner, pending, rfl⟩ := silent.keeps
    have same : ((socket.handled inner pending).delivered after incomplete (some message)).frameCodec.GoesOut ↔
        socket.frameCodec.GoesOut := Iff.rfl
    rw [same] at sends
    generalize autoSend (replyTo socket.state (some message))
      ((socket.handled inner pending).delivered after incomplete (some message)) = sent at sends ⊢
    obtain ⟨outcome, final⟩ := sent
    by_cases out : outcome = .ok ()
    · subst out
      refine .inl ⟨rfl, fun taken found => ?_⟩
      obtain rfl := Option.mem_some_iff.mp found
      exact sends.mp rfl
    · have kept := mt sends.mpr out
      rw [not_or] at kept
      refine .inr ⟨returnedMessages_none fun other returned => ?_, _, rfl, Option.isSome_iff_ne_none.mpr kept.1, kept.2⟩
      cases outcome with
      | ok => exact out rfl
      | _ => cases returned

/-- A step returns what it takes in, or loses it. -/
theorem step_returns (target : Target) {socket : WebSocket} (wellFormed : socket.WellFormed) (call : Call) :
    (¬ LosesMessage target socket call ∧
      returnedMessages [(call, (step target socket call).1)] = acceptedIn target socket call) ∨
    (LosesMessage target socket call ∧ returnedMessages [(call, (step target socket call).1)] = [] ∧
      ∃ message, acceptedIn target socket call = [message]) := by
  -- only a read takes in messages, and only a read returns them
  have other : call.op ≠ .read → (∀ message, (step target socket call).1 ≠ .ok (some message)) →
      ¬ LosesMessage target socket call ∧
        returnedMessages [(call, (step target socket call).1)] = acceptedIn target socket call := by
    intro notRead noMessage
    refine ⟨fun loses => notRead loses.1, ?_⟩
    rw [returnedMessages_none noMessage, acceptedIn]
    cases op : call.op with
    | read => exact absurd op notRead
    | _ => rfl
  cases op : call.op with
  | read =>
    have reads := read_reads target (install_wellFormed wellFormed call)
    have run : step target socket call = asReply (read target (install call socket)) := by
      rw [step, op]
      rfl
    have returns := reads.returns call
    rw [← run] at returns
    rw [acceptedIn, op]
    cases returns with
    | inl kept =>
      refine .inl ⟨?_, kept.1⟩
      rintro ⟨_, ⟨accepted, taken, replied⟩, stuck⟩
      cases kept.2 accepted taken with
      | inl silent => rw [silent] at replied; cases replied
      | inr out => exact stuck out
    | inr lost =>
      obtain ⟨nothing, accepted, taken, replied, stuck⟩ := lost
      refine .inr ⟨⟨op, ⟨accepted, taken, replied⟩, stuck⟩, nothing, accepted.message, ?_⟩
      simp only [Option.mem_def.mp taken, Option.map_some, Option.toList_some]
  | write | flush | close =>
    refine .inl (other (by rw [op]; simp) fun message => ?_)
    rw [step, op]
    exact asUnitReply_message _ message
  | setConfig setFunc =>
    refine .inl (other (by rw [op]; simp) fun message => ?_)
    rw [step, op]
    intro taken
    cases taken

/-- No run returns more messages than it takes in. -/
theorem returnedMessages_length_le (target : Target) {socket : WebSocket} (wellFormed : socket.WellFormed)
    (calls : List Call) :
    (returnedMessages (Lib.trace (step target) socket calls)).length ≤ (acceptedMessages target socket calls).length := by
  induction calls generalizing socket with
  | nil => exact Nat.le_refl _
  | cons call calls ih =>
    have rest := ih (step_wellFormed target wellFormed call)
    rw [Lib.trace_cons, returnedMessages_cons, acceptedMessages, List.length_append, List.length_append]
    rcases step_returns target wellFormed call with ⟨_, same⟩ | ⟨_, nothing, message, taken⟩
    · rw [same]
      omega
    · rw [nothing, taken, List.length_nil, List.length_singleton]
      omega

/-- The messages returned are those taken in exactly if no step of the run loses one. -/
theorem returnedMessages_iff (target : Target) {socket : WebSocket} (wellFormed : socket.WellFormed)
    (calls : List Call) :
    returnedMessages (Lib.trace (step target) socket calls) = acceptedMessages target socket calls ↔
      Lib.Meets (step target) (fun socket call => ¬ LosesMessage target socket call) socket calls := by
  induction calls generalizing socket with
  | nil => exact iff_of_true rfl trivial
  | cons call calls ih =>
    have after := step_wellFormed target wellFormed call
    have rest := ih after
    rw [Lib.trace_cons, returnedMessages_cons, acceptedMessages]
    rcases step_returns target wellFormed call with ⟨kept, same⟩ | ⟨loses, nothing, message, taken⟩
    · rw [same, List.append_cancel_left_eq, rest]
      exact ⟨fun meets => ⟨kept, meets⟩, fun meets => meets.2⟩
    · -- one message less is returned, and the calls behind it return no more than they take in
      have behind := returnedMessages_length_le target after calls
      apply iff_of_false _ (fun meets => meets.1 loses)
      intro same
      have lengths := congrArg List.length same
      rw [nothing, taken] at lengths
      simp only [List.nil_append, List.singleton_append, List.length_cons] at lengths
      omega

/-- In a run, the reads return the messages that they take in, each once and in order, exactly if the stream
takes every reply to them. -/
theorem messages_returned_iff (target : Target) (stream : Stream) (role : Role) (config : Option WebSocketConfig)
    (calls : List Call) :
    returnedMessages (Lib.trace (step target) (fromRawSocket stream role config) calls) =
        acceptedMessages target (fromRawSocket stream role config) calls ↔
      Lib.Meets (step target) (fun socket call => ¬ LosesMessage target socket call)
        (fromRawSocket stream role config) calls :=
  returnedMessages_iff target (fromRawSocket_wellFormed stream role config) calls

/-- A server reads a close frame with a code while its stream is reset, and reads once more. -/
def closeThenReset : List Call :=
  [⟨.read, [.frame (Frame.close (some ⟨.Away, ⟨[0x62, 0x79, 0x65]⟩⟩))], [.failed 0 ⟨.ConnectionReset⟩], [], [], []⟩,
    .reading .read [.eof]]

/-- The close frame is taken in, and no read returns it. -/
theorem not_messagesReturned_reset :
    returnedMessages (Lib.trace (step (.unlimited .w64)) (fromRawSocket .new .Server none) closeThenReset) = [] ∧
      acceptedMessages (.unlimited .w64) (fromRawSocket .new .Server none) closeThenReset =
        [.Close (some ⟨.Away, ⟨[0x62, 0x79, 0x65]⟩⟩)] := by
  decide

end WebSocket

end MonoioTungstenite
