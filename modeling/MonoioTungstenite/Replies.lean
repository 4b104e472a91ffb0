import MonoioTungstenite.Limits
import MonoioTungstenite.Losses
import MonoioTungstenite.Transcript

/-! # Automatic replies

`answerTo` says what is owed to a frame, without any of the code that sends it.  On a stream that does what it
is asked, the frames that reads queue are those that are owed, in order; there is one close frame among them at
most, and each is flushed before the message that it answers is returned (`answers_right`). -/

namespace MonoioTungstenite

open Lib.Utf8 Reassembly

/-! ## What is owed -/

/-- A control frame that is sent automatically. -/
def automatic (control : Control) (payload : List UInt8) : Frame :=
  ⟨{ FrameHeader.default with opcode := .Control control }, payload⟩

/-- The payload that answers the payload of a close frame: the same one, unless its code is not allowed. -/
def closeAnswer (payload : List UInt8) : List UInt8 :=
  match payload with
  | high :: low :: _ =>
    if (CloseCode.ofU16 (UInt16.ofNat (Lib.ofBe [high, low]))).isAllowed then payload
    else Lib.toBe 2 1002 ++ protocolViolation.bytes
  | _ => []

/-- The answer owed to a frame that arrives in this state. -/
def answerTo (role : Role) (state : WebSocketState) (frame : Frame) : Option Frame :=
  if state = .Active ∧ HeaderAllowed role frame.header then
    match frame.header.opcode with
    | .Control .Ping =>
      if ControlAllowed .Ping frame.header.isFinal frame.payload then some (automatic .Pong frame.payload) else none
    | .Control .Close =>
      if ControlAllowed .Close frame.header.isFinal frame.payload then
        some (automatic .Close (closeAnswer frame.payload))
      else none
    | _ => none
  else none

/-- The answers owed to what has come out of the reader. -/
def answersTo (role : Role) (state : WebSocketState) (arrivals : List Arrival) : List Frame :=
  arrivals.filterMap fun arrival =>
    match arrival with
    | .frame frame => answerTo role state frame
    | .refused _ _ => none

theorem answersTo_append (role : Role) (state : WebSocketState) (first second : List Arrival) :
    answersTo role state (first ++ second) = answersTo role state first ++ answersTo role state second :=
  List.filterMap_append

/-! ## Answers and replies -/

theorem replyTo_inactive {state : WebSocketState} (inactive : state ≠ .Active) (message : Option Message) :
    WebSocket.replyTo state message = none := by
  have quiet : state.isActive = false := by
    cases state with
    | Active => exact absurd rfl inactive
    | _ => rfl
  match message with
  | some (.Ping data) | some (.Close code) => simp [WebSocket.replyTo, quiet]
  | none | some (.Text _) | some (.Binary _) | some (.Pong _) | some (.Frame _) => rfl

/-- The close frame that the code makes of a payload has the payload that is owed. -/
theorem close_closeOf {rules : Rules} (active : rules.active = true) {payload : List UInt8} (body : CloseBody payload) :
    Frame.close (closeOf rules payload) = automatic .Close (closeAnswer payload) := by
  match payload with
  | [] => rfl
  | [byte] =>
    cases body with
    | inl empty => cases empty
    | inr long => exact absurd long.1 (by simp)
  | high :: low :: reason =>
    have small : Lib.ofBe [high, low] < 2 ^ 16 := by
      have bound := Lib.ofBe_lt [high, low]
      simpa using bound
    have back : Lib.toBe 2 (UInt16.ofNat (Lib.ofBe [high, low])).toNat = [high, low] := by
      rw [UInt16.toNat_ofNat', Nat.mod_eq_of_lt small]
      exact Lib.toBe_ofBe [high, low]
    rw [closeOf, closeAnswer]
    simp only [active, true_and]
    cases allowed : (CloseCode.ofU16 (UInt16.ofNat (Lib.ofBe [high, low]))).isAllowed with
    | true =>
      show automatic .Close (Lib.toBe 2 (CloseCode.ofU16 (UInt16.ofNat (Lib.ofBe [high, low]))).toU16.toNat ++ reason) = _
      rw [CloseCode.toU16_ofU16, back]
      rfl
    | false => rfl

/-- What the code replies to an allowed frame is what is owed to it. -/
theorem answerTo_allowed {rules : Rules} {state : WebSocketState} (active : rules.active = state.isActive)
    {pending : Option Pending} {frame : Frame} (allowed : Allowed rules pending frame) :
    answerTo rules.role state frame = WebSocket.replyTo state (next rules pending frame).1 := by
  obtain ⟨header, body⟩ := allowed
  by_cases isActive : state = .Active
  · subst isActive
    rw [answerTo, if_pos ⟨rfl, header⟩]
    cases opcode : frame.header.opcode with
    | Data data =>
      -- a data frame is not answered, whatever it delivers
      simp only [next, opcode]
      split
      · cases (grown pending data frame.payload).kind <;> rfl
      · rfl
    | Control control =>
      rw [opcode] at body
      cases control with
      | Ping =>
        simp only [next, opcode]
        rw [if_pos body]
        rfl
      | Close =>
        simp only [next, opcode]
        rw [if_pos body, ← close_closeOf active body.2.2]
        rfl
      | Pong => simp [next, opcode, WebSocket.replyTo]
      | Reserved code => simp [next, opcode, WebSocket.replyTo]
  · rw [answerTo, if_neg (fun both => isActive both.1), replyTo_inactive isActive]

theorem answerTo_notAllowed {rules : Rules} {state : WebSocketState} {pending : Option Pending} {frame : Frame}
    (notAllowed : ¬ Allowed rules pending frame) : answerTo rules.role state frame = none := by
  by_cases header : state = .Active ∧ HeaderAllowed rules.role frame.header
  · rw [answerTo, if_pos header]
    cases opcode : frame.header.opcode with
    | Data data => rfl
    | Control control =>
      have notControl : ¬ ControlAllowed control frame.header.isFinal frame.payload := by
        intro allowed
        apply notAllowed
        rw [Allowed, opcode]
        exact ⟨header.2, allowed⟩
      cases control with
      | Ping | Close => simp [notControl]
      | Pong | Reserved code => rfl
  · rw [answerTo, if_neg header]

theorem answersTo_inactive {role : Role} {state : WebSocketState} (inactive : state ≠ .Active)
    (arrivals : List Arrival) : answersTo role state arrivals = [] := by
  apply List.filterMap_eq_nil_iff.mpr
  intro arrival _
  cases arrival with
  | refused header error => rfl
  | frame frame => exact if_neg fun both => inactive both.1

theorem length_closeAnswer {payload : List UInt8} (small : payload.length ≤ 125) :
    (closeAnswer payload).length ≤ 125 := by
  match payload with
  | [] | [_] => simp [closeAnswer]
  | high :: low :: reason =>
    rw [closeAnswer]
    split
    · exact small
    · decide

/-- What a receiver wants of a control frame. -/
def Formed (frame : Frame) : Prop :=
  frame.header.isFinal = true ∧ frame.header.rsv1 = false ∧ frame.header.rsv2 = false ∧ frame.header.rsv3 = false ∧
    frame.payload.length ≤ 125

theorem answerTo_formed {role : Role} {state : WebSocketState} {frame answer : Frame}
    (owed : answerTo role state frame = some answer) : Formed answer := by
  unfold answerTo at owed
  split at owed
  next =>
    split at owed
    next =>
      split at owed
      next allowed => cases owed; exact ⟨rfl, rfl, rfl, rfl, allowed.2.1⟩
      next => cases owed
    next =>
      split at owed
      next allowed => cases owed; exact ⟨rfl, rfl, rfl, rfl, length_closeAnswer allowed.2.1⟩
      next => cases owed
    next => cases owed
  next => cases owed

/-! ## The buffer behind an answer -/

namespace FrameCodec

theorem not_drops {codec : FrameCodec} (calm : codec.io.Calm) : ¬ codec.Drops := by
  rw [Drops, headD_of_forall calm.writes]
  exact not_false

theorem not_loses {codec : FrameCodec} (calm : codec.io.Calm) (use : Use) : ¬ codec.Loses use := by
  cases use with
  | send frame => exact fun both => not_drops calm both.2
  | flush | close => exact not_drops calm

theorem not_losesAny {codec : FrameCodec} (calm : codec.io.Calm) (uses : List Use) : ¬ LosesAny uses codec := by
  induction uses generalizing codec with
  | nil => exact not_false
  | cons use uses ih =>
    intro loses
    cases loses with
    | inl now => exact not_loses calm use now
    | inr later => exact ih (use_calm calm use).calm later.2

/-- A frame that is sent and flushed is out, with everything that was queued before it. -/
theorem send_flush_out {codec : FrameCodec} (calm : codec.io.Calm) (whole : codec.Whole) (frame : Frame) :
    WebSocket.FlushedOut (useAll [.send frame, .flush] codec).2 := by
  have sent := use_calm calm (.send frame)
  have balanced := codec.use_balanced (.send frame)
  have stillWhole := balanced.whole whole (not_loses calm _)
  have length : (codec.use (.send frame)).2.writeBuf.length = codec.carried + frame.len := send_length calm frame
  have nonempty : (codec.use (.send frame)).2.writeBuf ≠ [] := by
    intro empty
    rw [empty, List.length_nil, Frame.len, FrameHeader.len] at length
    omega
  have flushed := (flush_calm sent.calm).1
  have run : useAll [.send frame, .flush] codec = (codec.use (.send frame)).2.flush := by
    rw [useAll, show codec.use (.send frame) = (.ok (), (codec.use (.send frame)).2) from Prod.ext sent.returned rfl,
      Lib.andThen_ok, useAll_single]
    rfl
  rw [run]
  exact (WebSocket.flush_flushedOut_iff stillWhole flushed.returned).mpr (.inl nonempty)

end FrameCodec

namespace WebSocket

/-! ## One step -/

/-- What comes out of the reader in a step. -/
def arrivedIn (target : Target) (socket : WebSocket) (call : Call) : List Arrival :=
  (step target socket call).2.frameCodec.inner.history.drop socket.frameCodec.inner.history.length

/-- The answers owed to what a read takes in; the state does not move before the message is returned. -/
def owedIn (target : Target) (socket : WebSocket) (call : Call) : List Frame :=
  match call.op with
  | .read => answersTo socket.role socket.state (arrivedIn target socket call)
  | _ => []

/-- The frames that a read queues. -/
def repliedIn (target : Target) (socket : WebSocket) (call : Call) : List Frame :=
  match call.op with
  | .read => (step target socket call).2.frameCodec.queued.drop socket.frameCodec.queued.length
  | _ => []

/-- How a read answers what has arrived: there is nothing to answer, or the message is returned when its
answer is out. -/
inductive Answers (socket : WebSocket) (arrivals : List Arrival) (result : Reply × WebSocket) : Prop
  | nothing (owed : answersTo socket.role socket.state arrivals = [])
    (queued : result.2.frameCodec.queued = socket.frameCodec.queued)
  | sent {message : Message} {reply : Frame} (active : socket.state = .Active)
    (owed : answersTo socket.role socket.state arrivals = [reply])
    (replies : replyTo .Active (some message) = some reply) (returned : result.1 = .ok (some message))
    (state : result.2.state = stateAfter .Active (some message))
    (queued : result.2.frameCodec.queued = socket.frameCodec.queued ++ [outgoing reply socket])
    (out : FlushedOut result.2.frameCodec)

theorem answersTo_single (role : Role) (state : WebSocketState) (frame : Frame) :
    answersTo role state [.frame frame] = (answerTo role state frame).toList := by
  cases owed : answerTo role state frame <;> simp [answersTo, owed]

/-- A round that only adds a fragment has nothing to answer. -/
theorem Silent.arrived {target : Target} {socket last : WebSocket} (silent : Silent target socket last) :
    ∃ arrivals, last.frameCodec.inner.history = socket.frameCodec.inner.history ++ arrivals ∧
      answersTo socket.role socket.state arrivals = [] := by
  induction silent with
  | refl socket => exact ⟨[], (List.append_nil _).symm, rfl⟩
  | @step socket last frame after incomplete canRead came grown allowed delivers pending wellFormed rest ih =>
    obtain ⟨arrivals, history, nothing⟩ := ih
    have unanswered : answerTo socket.role socket.state frame = none := by
      have owed := answerTo_allowed (show (socket.rules target).active = socket.state.isActive from rfl) allowed
      rw [delivers] at owed
      exact owed
    refine ⟨.frame frame :: arrivals, ?_, ?_⟩
    · rw [history]
      show after.history ++ arrivals = _
      rw [grown, List.append_assoc]
      rfl
    · rw [← List.singleton_append, answersTo_append, answersTo_single, unanswered]
      exact nothing

/-- The answer to the message of a round goes out before the round is over. -/
theorem reply_answers {socket : WebSocket} (calm : socket.frameCodec.io.Calm) (whole : socket.frameCodec.Whole)
    {after : FramedRead} {incomplete : Option IncompleteMessage} {message : Option Message} {arrivals : List Arrival}
    (owed : answersTo socket.role socket.state arrivals = (replyTo socket.state message).toList) :
    Answers socket arrivals
      (Lib.andThen (autoSend (replyTo socket.state message) (socket.delivered after incomplete message))
        fun _ socket => ((.ok message : Reply), socket)) := by
  have sent := autoSend_ran (replyTo socket.state message) (socket.delivered after incomplete message)
  rw [reply_calm (show (socket.delivered after incomplete message).frameCodec.io.Calm from calm)]
  cases replies : replyTo socket.state message with
  | none =>
    rw [replies] at owed
    exact .nothing owed rfl
  | some reply =>
    -- replies are owed on active connections only
    have active : socket.state = .Active := by
      by_contra inactive
      rw [replyTo_inactive inactive] at replies
      cases replies
    rw [replies] at owed sent
    rw [active] at replies
    cases message with
    | none => cases replies
    | some message =>
      have codec := sent.codec
      have ready : (socket.delivered after incomplete (some message)).frameCodec.io.Calm := calm
      have base : (socket.delivered after incomplete (some message)).frameCodec.Whole := whole
      have queued := FrameCodec.useAll_calm ready
        [.send (outgoing reply (socket.delivered after incomplete (some message))), .flush]
      refine .sent active owed replies rfl ?_ ?_ ?_
      · rw [← active]
        exact sent.state
      · show (autoSend _ _).2.frameCodec.queued = _
        rw [codec]
        exact queued.queued
      · show FlushedOut (autoSend _ _).2.frameCodec
        rw [codec]
        exact FrameCodec.send_flush_out ready base _

theorem Rounded.answers {target : Target} {socket : WebSocket} {result : Reply × WebSocket}
    (rounded : Rounded target socket result) (calm : socket.frameCodec.io.Calm) (whole : socket.frameCodec.Whole) :
    ∃ arrivals, result.2.frameCodec.inner.history = socket.frameCodec.inner.history ++ arrivals ∧
      Answers socket arrivals result := by
  have silent : answersTo socket.role socket.state [] = [] := rfl
  cases rounded with
  | waits came same | panics came same | failed came same | eof came same =>
    exact ⟨[], by rw [List.append_nil]; exact same, .nothing silent rfl⟩
  | refused refusal came grown => exact ⟨_, grown, .nothing rfl rfl⟩
  | closed closed came grown =>
    have inactive : socket.state ≠ .Active := by
      intro active
      rw [active] at closed
      cases closed
    exact ⟨_, grown, .nothing (answersTo_inactive inactive _) rfl⟩
  | @rejected frame after error incomplete canRead came grown notAllowed refused =>
    refine ⟨_, grown, .nothing ?_ rfl⟩
    have unanswered : answerTo socket.role socket.state frame = none :=
      @answerTo_notAllowed (socket.rules target) _ _ _ notAllowed
    rw [answersTo_single, unanswered]
    rfl
  | @accepted frame after message incomplete canRead came grown shorter allowed delivers pending wellFormed =>
    refine ⟨[.frame frame], ?_, ?_⟩
    · rw [(reply_writesOnly _ _ _).inner]
      exact grown
    · apply reply_answers calm whole
      have owed := answerTo_allowed (show (socket.rules target).active = socket.state.isActive from rfl) allowed
      rw [← delivers] at owed
      rw [answersTo_single]
      exact congrArg Option.toList owed

theorem read_answers (target : Target) {socket : WebSocket} (wellFormed : socket.WellFormed) {call : Call}
    (calm : call.Calm) (whole : socket.frameCodec.Whole) (reads : call.op = .read) :
    Answers (install call socket) (arrivedIn target socket call) (step target socket call) := by
  have stepped := step_stepped target wellFormed call
  rw [reads] at stepped
  suffices found : ∃ arrivals,
      (step target socket call).2.frameCodec.inner.history = socket.frameCodec.inner.history ++ arrivals ∧
        Answers (install call socket) arrivals (step target socket call) by
    obtain ⟨arrivals, history, answers⟩ := found
    rw [arrivedIn, history, List.drop_left]
    exact answers
  generalize step target socket call = result at stepped ⊢
  cases stepped with
  | terminated | closing => exact ⟨[], (List.append_nil _).symm, .nothing rfl rfl⟩
  | read state mayRead silent lastWellFormed rounded =>
    obtain ⟨first, history, nothing⟩ := silent.arrived
    obtain ⟨after, incomplete, rfl⟩ := silent.keeps
    obtain ⟨second, grown, answers⟩ := rounded.answers (calm.installed socket) whole
    refine ⟨first ++ second, by rw [grown, history, List.append_assoc]; rfl, ?_⟩
    have split := answersTo_append (install call socket).role (install call socket).state first second
    rw [nothing, List.nil_append] at split
    cases answers with
    | nothing owed queued => exact .nothing (split.trans owed) queued
    | sent active owed replies returned state queued out =>
      exact .sent active (split.trans owed) replies returned state queued out

/-! ## Runs -/

/-- The answers owed in a run, in order. -/
def answersOwed (target : Target) : WebSocket → List Call → List Frame
  | _, [] => []
  | socket, call :: calls => owedIn target socket call ++ answersOwed target (step target socket call).2 calls

/-- The frames that the reads of a run queue, in order. -/
def answersQueued (target : Target) : WebSocket → List Call → List Frame
  | _, [] => []
  | socket, call :: calls => repliedIn target socket call ++ answersQueued target (step target socket call).2 calls

/-- The code queues no frame on its own but what is owed: at most one of these is a close frame, and all of
them are such as a receiver wants. -/
structure AnswersRight (owed queued : List Frame) : Prop where
  same : queued.map Frame.unmasked = owed
  closes : (owed.filter fun frame => frame.header.opcode = .Control .Close).length ≤ 1
  formed : ∀ frame ∈ queued, Formed frame

/-- The read has returned the message that it answers, with everything that was queued written and flushed. -/
def AnsweredOut (owed : List Frame) (result : Reply × WebSocket) : Prop :=
  ∃ message reply, result.1 = .ok (some message) ∧ owed = [reply] ∧ replyTo .Active (some message) = some reply ∧
    FlushedOut result.2.frameCodec

theorem answersTo_formed {role : Role} {state : WebSocketState} {arrivals : List Arrival} :
    ∀ answer ∈ answersTo role state arrivals, Formed answer := by
  intro answer found
  obtain ⟨arrival, _, owed⟩ := List.mem_filterMap.mp found
  cases arrival with
  | refused header error => cases owed
  | frame frame => exact answerTo_formed owed

theorem owedIn_inactive (target : Target) {socket : WebSocket} (inactive : socket.state ≠ .Active) (call : Call) :
    owedIn target socket call = [] := by
  unfold owedIn
  cases call.op with
  | read => exact answersTo_inactive inactive _
  | _ => rfl

/-- A connection that is no longer active owes nothing any more. -/
theorem answersOwed_inactive (target : Target) {socket : WebSocket} (wellFormed : socket.WellFormed)
    (inactive : socket.state ≠ .Active) (calls : List Call) : answersOwed target socket calls = [] := by
  induction calls generalizing socket with
  | nil => rfl
  | cons call calls ih =>
    have stays : (step target socket call).2.state ≠ .Active := by
      intro active
      have forward := step_forward target wellFormed call
      rw [active] at forward
      exact inactive forward.active
    rw [answersOwed, owedIn_inactive target inactive, ih (step_wellFormed target wellFormed call) stays]
    rfl

/-- Masking a frame changes its mask only. -/
theorem unmasked_outgoing {frame : Frame} (unmasked : frame.header.mask = none) (socket : WebSocket) :
    (outgoing frame socket).unmasked = frame := by
  obtain ⟨⟨isFinal, rsv1, rsv2, rsv3, opcode, mask⟩, payload⟩ := frame
  cases unmasked
  unfold outgoing
  cases socket.role <;> rfl

theorem formed_unmasked {frame : Frame} : Formed frame.unmasked ↔ Formed frame := by
  unfold Frame.unmasked
  cases frame.header.mask <;> exact Iff.rfl

theorem replyTo_unmasked {state : WebSocketState} {message : Option Message} {reply : Frame}
    (replies : replyTo state message = some reply) : reply.header.mask = none := by
  unfold replyTo at replies
  split at replies
  next =>
    split at replies
    next => cases replies; rfl
    next => cases replies
  next code =>
    split at replies
    next => cases replies; cases code <;> rfl
    next => cases replies
  next => cases replies

theorem step_whole (target : Target) {socket : WebSocket} (wellFormed : socket.WellFormed)
    (whole : socket.frameCodec.Whole) {call : Call} (calm : call.Calm) :
    (step target socket call).2.frameCodec.Whole := by
  obtain ⟨frames, balanced⟩ := step_balanced target wellFormed call
  exact balanced.whole whole (FrameCodec.not_losesAny (calm.installed socket) _)

/-- One call: what is queued is what is owed, and a close frame is owed on an active connection that is not
active any more. -/
theorem step_answers (target : Target) {socket : WebSocket} (wellFormed : socket.WellFormed)
    (whole : socket.frameCodec.Whole) {call : Call} (calm : call.Calm) :
    (owedIn target socket call = [] ∧ repliedIn target socket call = []) ∨
    (call.op = .read ∧ AnsweredOut (owedIn target socket call) (step target socket call) ∧
      (repliedIn target socket call).map Frame.unmasked = owedIn target socket call ∧
      ∀ frame ∈ owedIn target socket call, frame.header.opcode = .Control .Close →
        (step target socket call).2.state ≠ .Active) := by
  unfold owedIn repliedIn
  cases op : call.op with
  | read =>
    have answers := read_answers target wellFormed calm whole op
    cases answers with
    | nothing owed queued =>
      refine .inl ⟨owed, ?_⟩
      show (step target socket call).2.frameCodec.queued.drop socket.frameCodec.queued.length = []
      rw [queued]
      exact List.drop_length
    | @sent message reply active owed replies returned state queued out =>
      have listed : answersTo socket.role socket.state (arrivedIn target socket call) = [reply] := owed
      refine .inr ⟨rfl, ⟨message, reply, returned, owed, replies, out⟩, ?_, ?_⟩
      · show ((step target socket call).2.frameCodec.queued.drop socket.frameCodec.queued.length).map _ = _
        rw [queued, listed]
        show ((socket.frameCodec.queued ++ _).drop _).map _ = _
        rw [List.drop_left, List.map_singleton, unmasked_outgoing (replyTo_unmasked replies)]
      · show ∀ frame ∈ answersTo socket.role socket.state (arrivedIn target socket call), _
        rw [listed, state]
        intro frame found closes stillActive
        obtain rfl := List.mem_singleton.mp found
        -- the state has moved with the message that the answer is to
        match message with
        | .Close code => cases stillActive
        | .Ping data =>
          cases replies
          cases closes
        | .Text _ | .Binary _ | .Pong _ | .Frame _ => cases replies
  | _ => exact .inl ⟨rfl, rfl⟩

theorem answers_run (target : Target) {socket : WebSocket} (wellFormed : socket.WellFormed)
    (whole : socket.frameCodec.Whole) {calls : List Call} (calm : ∀ call ∈ calls, call.Calm) :
    AnswersRight (answersOwed target socket calls) (answersQueued target socket calls) := by
  induction calls generalizing socket with
  | nil => exact ⟨rfl, Nat.zero_le _, fun frame nothing => absurd nothing List.not_mem_nil⟩
  | cons call calls ih =>
    rw [List.forall_mem_cons] at calm
    have after := step_wellFormed target wellFormed call
    have rest := ih after (step_whole target wellFormed whole calm.1) calm.2
    have answers := step_answers target wellFormed whole calm.1
    have formed : ∀ frame ∈ repliedIn target socket call,
        (repliedIn target socket call).map Frame.unmasked = owedIn target socket call → Formed frame := by
      intro frame found same
      have owed : frame.unmasked ∈ owedIn target socket call := same ▸ List.mem_map_of_mem found
      have unmasked : Formed frame.unmasked := by
        unfold owedIn at owed
        split at owed
        next => exact answersTo_formed _ owed
        next => cases owed
      exact formed_unmasked.mp unmasked
    rw [answersOwed, answersQueued]
    cases answers with
    | inl nothing =>
      rw [nothing.1, nothing.2]
      exact rest
    | inr answered =>
      obtain ⟨_, ⟨message, reply, _, owed, _⟩, same, closing⟩ := answered
      constructor
      case same => rw [List.map_append, same, rest.same]
      case closes =>
        rw [owed] at closing ⊢
        by_cases closes : reply.header.opcode = .Control .Close
        · -- nothing is owed behind a close frame
          have inactive := closing reply (by simp) closes
          rw [answersOwed_inactive target after inactive]
          simp [closes]
        · simpa [closes] using rest.closes
      case formed =>
        intro frame found
        cases List.mem_append.mp found with
        | inl now => exact formed frame now same
        | inr later => exact rest.formed frame later

/-- On a stream that does what it is asked, the frames that reads queue are those that are owed, and a read
that owes an answer returns its message when the answer is out. -/
theorem answers_right (target : Target) (role : Role) (config : Option WebSocketConfig) (calls : List Call)
    (calm : ∀ call ∈ calls, call.Calm) :
    AnswersRight (answersOwed target (fromRawSocket .new role config) calls)
      (answersQueued target (fromRawSocket .new role config) calls) ∧
    ∀ past call later, calls = past ++ call :: later →
      owedIn target (reached target .new role config past) call ≠ [] →
      AnsweredOut (owedIn target (reached target .new role config past) call)
        (step target (reached target .new role config past) call) := by
  have initial : (fromRawSocket .new role config).WellFormed ∧ (fromRawSocket .new role config).frameCodec.Whole :=
    ⟨fromRawSocket_wellFormed .new role config, rfl⟩
  refine ⟨answers_run target initial.1 initial.2 calm, ?_⟩
  intro past call later split owes
  subst split
  have preserved : ∀ (socket : WebSocket) (call : Call), socket.WellFormed ∧ socket.frameCodec.Whole → call.Calm →
      (step target socket call).2.WellFormed ∧ (step target socket call).2.frameCodec.Whole :=
    fun socket call both calm => ⟨step_wellFormed target both.1 call, step_whole target both.1 both.2 calm⟩
  have meets : Lib.Meets (step target) (fun _ call => call.Calm) (fromRawSocket .new role config) past :=
    Lib.meets_of_mem (fun call found _ => calm call (List.mem_append_left _ found)) _
  have both := @Lib.final_invariant _ _ _ (step target)
    (fun socket : WebSocket => socket.WellFormed ∧ socket.frameCodec.Whole) _ preserved _ _ initial meets
  cases step_answers target both.1 both.2 (calm call (by simp)) with
  | inl nothing => exact absurd nothing.1 owes
  | inr answered => exact answered.2.1

/-- A client gets a ping, a close frame with a code that is not allowed, and another ping. -/
def pingThenClose : List Call :=
  [.reading .read [.frame (Frame.ping [7])],
    .reading .read [.frame (Frame.close (some ⟨.Status, ⟨[]⟩⟩))],
    .reading .read [.frame (Frame.ping [8])]]

theorem answers_right_pingThenClose :
    AnswersRight (answersOwed (.unlimited .w64) (fromRawSocket .new .Client none) pingThenClose)
      (answersQueued (.unlimited .w64) (fromRawSocket .new .Client none) pingThenClose) ∧
    AnsweredOut
      (owedIn (.unlimited .w64) (reached (.unlimited .w64) .new .Client none (pingThenClose.take 1))
        (.reading .read [.frame (Frame.close (some ⟨.Status, ⟨[]⟩⟩))]))
      (step (.unlimited .w64) (reached (.unlimited .w64) .new .Client none (pingThenClose.take 1))
        (.reading .read [.frame (Frame.close (some ⟨.Status, ⟨[]⟩⟩))])) := by
  have calm : ∀ call ∈ pingThenClose, call.Calm := by
    intro call found
    simp only [pingThenClose, List.mem_cons, List.not_mem_nil, or_false] at found
    rcases found with rfl | rfl | rfl <;> exact ⟨nofun, nofun, nofun⟩
  have right := answers_right (.unlimited .w64) .Client none pingThenClose calm
  exact ⟨right.1, right.2 (pingThenClose.take 1) _ (pingThenClose.drop 2) rfl (by decide)⟩

/-- The ping behind the close frame is not answered. -/
example : answersOwed (.unlimited .w64) (fromRawSocket .new .Client none) pingThenClose =
    [Frame.pong [7], Frame.close (some ⟨.Protocol, protocolViolation⟩)] := by
  decide

end WebSocket

end MonoioTungstenite
