import MonoioTungstenite.Outgoing

/-! # What repeated reads return

Read again and again, a new socket returns the messages that `Reassembly.reassemble` finds in the frames,
and fails at the first frame that is not allowed (`readAll_fresh`). -/

namespace MonoioTungstenite

open Reassembly

/-! ## The reference -/

namespace Reassembly

variable {rules : Rules} {pending : Option Pending} {frame : Frame} {frames : List Frame}

theorem reassemble_refused (notAllowed : ¬ Allowed rules pending frame) :
    reassemble rules pending (frame :: frames) = ([], .refused frames) := by
  rw [reassemble, if_neg notAllowed]

theorem reassemble_silent (allowed : Allowed rules pending frame) (silent : (next rules pending frame).1 = none) :
    reassemble rules pending (frame :: frames) = reassemble rules (next rules pending frame).2 frames := by
  rw [reassemble, if_pos allowed]
  generalize next rules pending frame = result at silent
  obtain ⟨message, after⟩ := result
  cases silent
  rfl

theorem reassemble_close (allowed : Allowed rules pending frame) {code : Option CloseFrame}
    (closes : (next rules pending frame).1 = some (.Close code)) :
    reassemble rules pending (frame :: frames) = ([.Close code], .closed frames) := by
  rw [reassemble, if_pos allowed]
  generalize next rules pending frame = result at closes
  obtain ⟨message, after⟩ := result
  cases closes
  rfl

theorem reassemble_message (allowed : Allowed rules pending frame) {message : Message}
    (delivers : (next rules pending frame).1 = some message) (other : ∀ code, message ≠ .Close code) :
    reassemble rules pending (frame :: frames) =
      (message :: (reassemble rules (next rules pending frame).2 frames).1,
        (reassemble rules (next rules pending frame).2 frames).2) := by
  rw [reassemble, if_pos allowed]
  generalize next rules pending frame = result at delivers
  obtain ⟨_, after⟩ := result
  cases delivers
  cases message with
  | Close code => exact absurd rfl (other code)
  | _ => rfl

end Reassembly

/-! ## The reader -/

/-- A reader that has frames and nothing else to hand out. -/
def FramedRead.Holds (reader : FramedRead) (frames : List Frame) : Prop :=
  reader.errored = false ∧ reader.script = frames.map .frame

theorem FramedRead.Holds.next_nil {reader : FramedRead} (holds : reader.Holds []) (target : Target) :
    (next target reader).1 = .pending := by
  rw [next_eq_run target holds.1, holds.2]
  rfl

theorem FramedRead.Holds.next_cons {reader : FramedRead} {frame : Frame} {frames : List Frame}
    (holds : reader.Holds (frame :: frames)) (target : Target) :
    (next target reader).1 = .ok (some frame) ∧ (next target reader).2.Holds frames := by
  rw [next_eq_run target holds.1, holds.2]
  exact ⟨rfl, holds.1, rfl⟩

/-- The next frame that comes out of such a reader. -/
theorem FramedRead.Holds.came {reader after : FramedRead} {frame : Frame} {frames : List Frame} {target : Target}
    (holds : reader.Holds frames) (came : next target reader = (.ok (some frame), after)) :
    ∃ rest, frames = frame :: rest ∧ after.Holds rest := by
  -- the reader hands out the first of the frames, or waits if there is none
  cases frames with
  | nil =>
    have waits := holds.next_nil target
    rw [came] at waits
    cases waits
  | cons first rest =>
    have hands := holds.next_cons target
    rw [came] at hands
    obtain ⟨same, still⟩ := hands
    cases same
    exact ⟨rest, rfl, still⟩

namespace WebSocket

/-! ## Repeated reads -/

/-- A read that finds these frames and these masks, on a stream that does what it is asked. -/
def readOf (frames : List Frame) (masks : List Mask) : Call := ⟨.read, frames.map .frame, [], [], [], masks⟩

/-- The frames that a read has left behind. -/
def framesLeft (socket : WebSocket) : List Frame :=
  socket.frameCodec.inner.script.filterMap fun action =>
    match action with
    | .frame frame => some frame
    | _ => none

theorem framesLeft_eq {socket : WebSocket} {frames : List Frame} (holds : socket.frameCodec.inner.Holds frames) :
    socket.framesLeft = frames := by
  rw [framesLeft, holds.2, List.filterMap_map]
  exact List.filterMap_some

/-- Reads until a read returns a close frame, fails or waits; `none` says that a read has panicked or the
fuel has run out. -/
def readAll (target : Target) (masks : Nat → List Mask) : Nat → List Frame → WebSocket →
    Option (List Message × Ending)
  | 0, _, _ => none
  | fuel + 1, frames, socket =>
    match step target socket (readOf frames (masks fuel)) with
    | (.ok (some (.Close code)), after) => some ([.Close code], .closed after.framesLeft)
    | (.ok (some message), after) =>
      (readAll target masks fuel after.framesLeft after).map fun (messages, ending) => (message :: messages, ending)
    | (.err _, after) => some ([], .refused after.framesLeft)
    | (.pending, _) => some ([], .waiting)
    | (.ok none, _) | (.panic _, _) => none

/-- The rounds before the last come to the same as their frames. -/
theorem Silent.reassembles {target : Target} {socket last : WebSocket} (silent : Silent target socket last)
    {frames : List Frame} (holds : socket.frameCodec.inner.Holds frames) :
    ∃ rest, last.frameCodec.inner.Holds rest ∧ rest.length ≤ frames.length ∧
      reassemble (socket.rules target) socket.pending frames = reassemble (last.rules target) last.pending rest := by
  induction silent generalizing frames with
  | refl socket => exact ⟨frames, holds, Nat.le_refl _, rfl⟩
  | @step socket last frame after incomplete canRead came grown allowed delivers pending wellFormed rest
      inductionHypothesis =>
    obtain ⟨others, rfl, stillHolds⟩ := holds.came came
    obtain ⟨left, lastHolds, shorter, same⟩ := inductionHypothesis stillHolds
    refine ⟨left, lastHolds, Nat.le_succ_of_le shorter, ?_⟩
    rw [reassemble_silent allowed delivers, ← pending]
    exact same

/-- A read returns a message, if it returns. -/
theorem step_read_returns (target : Target) (socket : WebSocket) {call : Call} (reads : call.op = .read) :
    (step target socket call).1 ≠ .ok none := by
  rw [step, reads, perform]
  cases called : (read target (install call socket)).1 <;> simp [Lib.Outcome.map, called]

/-- On a stream that does what it is asked, a reply is sent and the message returned. -/
theorem reply_calm {socket : WebSocket} (calm : socket.frameCodec.io.Calm) (reply : Option Frame)
    (message : Option Message) :
    (Lib.andThen (autoSend reply socket) fun _ socket => ((.ok message : Reply), socket)) =
      (.ok message, (autoSend reply socket).2) := by
  have sent : (autoSend reply socket).1 = .ok () :=
    (autoSend_ran reply socket).returned.mpr (FrameCodec.useAll_calm calm _).returned
  rw [show autoSend reply socket = (.ok (), (autoSend reply socket).2) from Prod.ext sent rfl, Lib.andThen_ok]

/-- What a read comes to, on a socket that is active and finds these frames. -/
inductive Taken (target : Target) (socket : WebSocket) (frames : List Frame) : Reply × WebSocket → Prop
  | waits {after : WebSocket}
    (same : reassemble (socket.rules target) socket.pending frames = ([], .waiting)) :
    Taken target socket frames (.pending, after)
  | refused {error : Error} {rest : List Frame} {after : WebSocket} (left : after.framesLeft = rest)
    (same : reassemble (socket.rules target) socket.pending frames = ([], .refused rest)) :
    Taken target socket frames (.err error, after)
  | closed {code : Option CloseFrame} {rest : List Frame} {after : WebSocket} (left : after.framesLeft = rest)
    (same : reassemble (socket.rules target) socket.pending frames = ([.Close code], .closed rest)) :
    Taken target socket frames (.ok (some (.Close code)), after)
  | message {message : Message} {rest : List Frame} {after : WebSocket} (other : ∀ code, message ≠ .Close code)
    (left : after.framesLeft = rest) (shorter : rest.length < frames.length) (active : after.state = .Active)
    (goesOn : after.frameCodec.inner.errored = false) (wellFormed : after.WellFormed) (rules : after.rules target = socket.rules target)
    (same : reassemble (socket.rules target) socket.pending frames =
      (message :: (reassemble (after.rules target) after.pending rest).1,
        (reassemble (after.rules target) after.pending rest).2)) :
    Taken target socket frames (.ok (some message), after)

/-- The last round of a read. -/
theorem Rounded.taken {target : Target} {socket : WebSocket} {result : Reply × WebSocket} {frames : List Frame}
    (rounded : Rounded target socket result) (returns : result.1 ≠ .ok none) (active : socket.state = .Active)
    (calm : socket.frameCodec.io.Calm) (holds : socket.frameCodec.inner.Holds frames) :
    Taken target socket frames result := by
  cases frames with
  | nil =>
    have waits := holds.next_nil target
    cases rounded with
    | waits => exact .waits rfl
    | panics came | failed came | eof came | refused _ came | closed _ came | rejected _ came | accepted _ came =>
      rw [came] at waits
      cases waits
  | cons first rest =>
    have hands := (holds.next_cons target).1
    cases rounded with
    | waits came | panics came | failed came | eof came | refused _ came =>
      rw [came] at hands
      cases hands
    | closed closed =>
      rw [active] at closed
      cases closed
    | rejected canRead came grown notAllowed refused =>
      obtain ⟨others, same, stillHolds⟩ := holds.came came
      cases same
      exact .refused (framesLeft_eq stillHolds) (reassemble_refused notAllowed)
    | @accepted frame after message incomplete canRead came grown shorter allowed delivers pending wellFormed =>
      obtain ⟨others, same, stillHolds⟩ := holds.came came
      cases same
      have writes := autoSend_writesOnly (replyTo socket.state message) (socket.delivered after incomplete message)
      have left : (autoSend (replyTo socket.state message) (socket.delivered after incomplete message)).2.framesLeft =
          rest := framesLeft_eq (by rw [writes.inner]; exact stillHolds)
      rw [reply_calm (show (socket.delivered after incomplete message).frameCodec.io.Calm from calm)] at returns ⊢
      cases message with
      | none => exact absurd rfl returns
      | some message =>
        cases message with
        | Close code => exact .closed left (reassemble_close allowed delivers.symm)
        | Text _ | Binary _ | Ping _ | Pong _ | Frame _ =>
          refine .message (fun code same => by cases same) left (Nat.lt_succ_self _) ?_ ?_ ?_ ?_ ?_
          · exact writes.state.trans active
          · rw [writes.inner]
            exact stillHolds.1
          · exact wellFormed_of_kept writes.toReadSideKept wellFormed
          · simp only [rules, writes.role, writes.config, writes.state]
            rfl
          · rw [reassemble_message allowed delivers.symm (fun code same => by cases same), ← pending]
            simp only [rules, WebSocket.pending, writes.role, writes.config, writes.state, writes.incomplete]
            rfl

theorem step_taken (target : Target) {socket : WebSocket} (wellFormed : socket.WellFormed)
    (active : socket.state = .Active) (goesOn : socket.frameCodec.inner.errored = false) (frames : List Frame)
    (masks : List Mask) :
    Taken target socket frames (step target socket (readOf frames masks)) := by
  have stepped := step_stepped target wellFormed (readOf frames masks)
  have returns := step_read_returns target socket (show (readOf frames masks).op = .read from rfl)
  have holds : (install (readOf frames masks) socket).frameCodec.inner.Holds frames := ⟨goesOn, rfl⟩
  have ready : (install (readOf frames masks) socket).state = .Active := active
  generalize step target socket (readOf frames masks) = result at stepped returns ⊢
  generalize operation : (readOf frames masks).op = op at stepped
  cases stepped with
  | terminated state => rw [ready] at state; cases state
  | closing _ _ closed => rw [ready] at closed; cases closed
  | read state reads silent lastWellFormed rounded =>
    obtain ⟨left, lastHolds, shorter, same⟩ := silent.reassembles holds
    have rules := silent.rules_eq.1
    have lastActive := silent.state_eq.trans ready
    have calm : (install (readOf frames masks) socket).frameCodec.io.Calm := ⟨nofun, nofun, nofun⟩
    have lastCalm := calm
    obtain ⟨after, incomplete, rfl⟩ := silent.keeps
    have taken := rounded.taken returns lastActive lastCalm lastHolds
    have start : reassemble (socket.rules target) socket.pending frames = _ := same
    cases taken with
    | waits ends => exact .waits (start.trans ends)
    | refused leaves ends => exact .refused leaves (start.trans ends)
    | closed leaves ends => exact .closed leaves (start.trans ends)
    | message other leaves fewer stillActive stillGoesOn stillWellFormed sameRules ends =>
      exact .message other leaves (Nat.lt_of_lt_of_le fewer shorter) stillActive stillGoesOn stillWellFormed
        (sameRules.trans rules) (start.trans ends)
  | write => cases operation
  | flush => cases operation
  | close => cases operation
  | setConfig => cases operation

theorem readAll_eq (target : Target) (masks : Nat → List Mask) (fuel : Nat) {frames : List Frame}
    {socket : WebSocket} (wellFormed : socket.WellFormed) (active : socket.state = .Active)
    (goesOn : socket.frameCodec.inner.errored = false) (enough : frames.length < fuel) :
    readAll target masks fuel frames socket = some (reassemble (socket.rules target) socket.pending frames) := by
  induction fuel generalizing frames socket with
  | zero => exact absurd enough (Nat.not_lt_zero _)
  | succ fuel inductionHypothesis =>
    have taken := step_taken target wellFormed active goesOn frames (masks fuel)
    rw [readAll]
    generalize step target socket (readOf frames (masks fuel)) = result at taken
    cases taken with
    | waits same => rw [same]
    | refused left same => rw [same, ← left]
    | closed left same => rw [same, ← left]
    | @message message rest after other left shorter stillActive stillGoesOn stillWellFormed rules same =>
      have again := inductionHypothesis stillWellFormed stillActive stillGoesOn (show rest.length < fuel by omega)
      rw [same]
      cases message with
      | Close code => exact absurd rfl (other code)
      | _ =>
        show Option.map _ (readAll target masks fuel after.framesLeft after) = _
        rw [left, again]
        rfl

/-- Read again and again, a new socket returns exactly the messages of the reference, and ends as it does:
with the first close frame, at the first frame that is not allowed, or waiting for more. -/
theorem readAll_fresh (target : Target) (stream : Stream) (role : Role) (config : Option WebSocketConfig)
    (masks : Nat → List Mask) (frames : List Frame) :
    let rules : Rules :=
      ⟨role, (config.getD .default).maxMessageSize,
        IncompleteMessage.maxSize target (config.getD .default).maxMessageSize, true⟩
    readAll target masks (frames.length + 1) frames (fromRawSocket stream role config) =
      some (reassemble rules none frames) :=
  readAll_eq target masks (frames.length + 1) (fun _ => nofun) rfl rfl (Nat.lt_succ_self _)

end WebSocket

end MonoioTungstenite
