import Mathlib.Data.List.Infix
import MonoioTungstenite.Framing
import MonoioTungstenite.States

/-! # Messages without holes

A message that a read returns is spelled out, frame by frame, by the frames on the wire up to the one that
ends it (`messages_whole`), unless a data frame was refused in the middle of it: the socket keeps the
fragments it has, and a later fragment goes on where they stop.  A frame that the decoder refuses does no harm: the
reader has failed, and the connection ends (`Spent`). -/

namespace MonoioTungstenite

open Reassembly

/-! ## Frame sequences -/

/-- What one more arrival makes of the frames of a message: a fragment extends it, and ends it if it is
final; a control frame changes nothing, and neither do bytes that are no header of a frame. -/
def spellOn (message : Pending × Bool) (arrival : Arrival) : Option (Pending × Bool) :=
  if message.2 then none
  else
    match arrival with
    | .frame frame =>
      match frame.header.opcode with
      | .Data .Continue => some (⟨message.1.kind, message.1.payload ++ frame.payload⟩, frame.header.isFinal)
      | .Data _ => none
      | .Control _ => some message
    | .refused none _ => some message
    | .refused (some header) _ =>
      match header.opcode with
      | .Data _ => none
      | .Control _ => some message

/-- The message that a sequence of arrivals spells, and whether it is complete: a first frame, then all the
fragments up to the final one, and only control frames in between. -/
def spell : List Arrival → Option (Pending × Bool)
  | .frame frame :: arrivals =>
    match frame.header.opcode with
    | .Data data =>
      (kindOf data).bind fun kind => arrivals.foldlM spellOn (⟨kind, frame.payload⟩, frame.header.isFinal)
    | .Control _ => none
  | _ => none

theorem spell_concat {arrivals : List Arrival} {message : Pending × Bool} (spelled : spell arrivals = some message)
    (arrival : Arrival) : spell (arrivals ++ [arrival]) = spellOn message arrival := by
  match arrivals with
  | [] => cases spelled
  | .refused _ _ :: _ => cases spelled
  | .frame first :: rest =>
    simp only [spell, List.cons_append] at spelled ⊢
    cases opcode : first.header.opcode with
    | Control control => rw [opcode] at spelled; cases spelled
    | Data data =>
      rw [opcode] at spelled
      cases kind : kindOf data with
      | none => simp [kind] at spelled
      | some kind =>
        simp only [kind, Option.bind_some] at spelled ⊢
        rw [List.foldlM_append, spelled]
        simp

/-- The pending message is what the end of the history spells so far. -/
def Tracked (history : List Arrival) (pending : Option Pending) : Prop :=
  ∀ message ∈ pending, ∃ arrivals, arrivals <:+ history ∧ spell arrivals = some (message, false)

theorem tracked_none (history : List Arrival) : Tracked history none := fun _ => nofun

theorem suffix_concat {α : Type} {part whole : List α} (suffix : part <:+ whole) (last : α) :
    part ++ [last] <:+ whole ++ [last] := by
  obtain ⟨front, rfl⟩ := suffix
  exact ⟨front, by rw [List.append_assoc]⟩

/-- An arrival that does not change the message. -/
theorem Tracked.skip {history : List Arrival} {pending : Option Pending} (tracked : Tracked history pending)
    {arrival : Arrival} (skips : ∀ message, spellOn (message, false) arrival = some (message, false)) :
    Tracked (history ++ [arrival]) pending := by
  intro message held
  obtain ⟨arrivals, suffix, spelled⟩ := tracked message held
  exact ⟨arrivals ++ [arrival], suffix_concat suffix arrival, (spell_concat spelled arrival).trans (skips message)⟩

theorem spellOn_control {frame : Frame} {control : Control} (opcode : frame.header.opcode = .Control control)
    (message : Pending) : spellOn (message, false) (.frame frame) = some (message, false) := by
  simp [spellOn, opcode]

/-- A data frame that is allowed spells on. -/
theorem spelled_data {rules : Rules} {pending : Option Pending} {frame : Frame} {data : Data}
    {history : List Arrival} (allowed : Allowed rules pending frame) (tracked : Tracked history pending)
    (opcode : frame.header.opcode = .Data data) :
    ∃ arrivals, arrivals <:+ history ++ [.frame frame] ∧
      spell arrivals = some (grown pending data frame.payload, frame.header.isFinal) := by
  have dataAllowed := allowed.2
  simp only [opcode] at dataAllowed
  cases pending with
  | some message =>
    cases data with
    | Continue =>
      obtain ⟨arrivals, suffix, spelled⟩ := tracked message rfl
      refine ⟨arrivals ++ [.frame frame], suffix_concat suffix _, (spell_concat spelled _).trans ?_⟩
      simp [spellOn, opcode, grown]
    | _ => exact dataAllowed.elim
  | none =>
    refine ⟨[.frame frame], List.suffix_append _ _, ?_⟩
    cases data with
    | Text => simp [spell, opcode, kindOf, grown]
    | Binary => simp [spell, opcode, kindOf, grown]
    | _ => exact dataAllowed.elim

theorem Tracked.next {rules : Rules} {pending : Option Pending} {frame : Frame} {history : List Arrival}
    (tracked : Tracked history pending) (allowed : Allowed rules pending frame) :
    Tracked (history ++ [.frame frame]) (next rules pending frame).2 := by
  cases opcode : frame.header.opcode with
  | Control control =>
    have same : (Reassembly.next rules pending frame).2 = pending := by
      simp only [Reassembly.next, opcode]
      cases control <;> rfl
    rw [same]
    exact tracked.skip (spellOn_control opcode)
  | Data data =>
    obtain ⟨arrivals, suffix, spelled⟩ := spelled_data allowed tracked opcode
    simp only [Reassembly.next, opcode]
    cases isFinal : frame.header.isFinal with
    | true => exact tracked_none _
    | false =>
      intro message held
      cases held
      exact ⟨arrivals, suffix, spelled.trans (by rw [isFinal])⟩

/-- A data message that is delivered is spelled out by the end of the history. -/
theorem Tracked.delivered {rules : Rules} {pending : Option Pending} {frame : Frame} {history : List Arrival}
    (tracked : Tracked history pending) (allowed : Allowed rules pending frame) {kind : IncompleteMessageType}
    {payload : List UInt8} (delivered : (Reassembly.next rules pending frame).1 = some (kind.message payload)) :
    ∃ arrivals, arrivals <:+ history ++ [.frame frame] ∧ spell arrivals = some (⟨kind, payload⟩, true) := by
  obtain ⟨data, opcode, isFinal, whole⟩ := next_data delivered
  obtain ⟨arrivals, suffix, spelled⟩ := spelled_data allowed tracked opcode
  exact ⟨arrivals, suffix, by rw [spelled, whole, isFinal]⟩

/-! ## Refused frames -/

def OpCode.isData : OpCode → Bool
  | .Data _ => true
  | .Control _ => false

/-- Up to the first close frame, and to one that the decoder refuses, no data frame is refused while a message is
pending, but for the last frame of a text that ends inside a character. -/
def Clean (rules : Rules) : Option Pending → List Arrival → Prop
  | _, [] => True
  | _, .refused _ _ :: _ => True
  | pending, .frame frame :: arrivals =>
    if Allowed rules pending frame then
      frame.header.opcode = .Control .Close ∨ Clean rules (next rules pending frame).2 arrivals
    else if EndsCut rules pending frame then Clean rules none arrivals
    else (pending.isSome = true → frame.header.opcode.isData = false) ∧ Clean rules pending arrivals

instance decidableClean (rules : Rules) : (pending : Option Pending) → (arrivals : List Arrival) →
    Decidable (Clean rules pending arrivals)
  | _, [] => isTrue trivial
  | _, .refused _ _ :: _ => isTrue trivial
  | pending, .frame frame :: arrivals =>
    have := decidableClean rules pending arrivals
    have := decidableClean rules none arrivals
    have := decidableClean rules (next rules pending frame).2 arrivals
    inferInstanceAs (Decidable (if Allowed rules pending frame then
      frame.header.opcode = .Control .Close ∨ Clean rules (next rules pending frame).2 arrivals
      else if EndsCut rules pending frame then Clean rules none arrivals
      else (pending.isSome = true → frame.header.opcode.isData = false) ∧ Clean rules pending arrivals))

/-- What has arrived spells the pending message, and if all that arrives is clean, then so is what follows. -/
structure Follows (rules : Rules) (past : List Arrival) (pending : Option Pending) : Prop where
  tracked : Tracked past pending
  clean : ∀ more, Clean rules none (past ++ more) → Clean rules pending more

theorem follows_nil (rules : Rules) : Follows rules [] none := ⟨tracked_none _, fun _ clean => clean⟩

section Follows

variable {rules : Rules} {past : List Arrival} {pending : Option Pending} {frame : Frame}

theorem Follows.allowed (follows : Follows rules past pending) (allowed : Allowed rules pending frame)
    (goesOn : frame.header.opcode ≠ .Control .Close) :
    Follows rules (past ++ [.frame frame]) (next rules pending frame).2 := by
  refine ⟨follows.tracked.next allowed, fun more clean => ?_⟩
  rw [List.append_assoc] at clean
  have here := follows.clean _ clean
  rw [List.singleton_append, Clean, if_pos allowed] at here
  exact here.resolve_left goesOn

theorem Follows.cut (follows : Follows rules past pending) (notAllowed : ¬ Allowed rules pending frame)
    (cut : EndsCut rules pending frame) : Follows rules (past ++ [.frame frame]) none := by
  refine ⟨tracked_none _, fun more clean => ?_⟩
  rw [List.append_assoc] at clean
  have here := follows.clean _ clean
  rw [List.singleton_append, Clean, if_neg notAllowed, if_pos cut] at here
  exact here

/-- A frame that is refused while a message is pending is a control frame, if all is clean. -/
theorem Follows.control (follows : Follows rules past pending) (notAllowed : ¬ Allowed rules pending frame)
    (notCut : ¬ EndsCut rules pending frame) {more : List Arrival}
    (clean : Clean rules none (past ++ .frame frame :: more)) (held : pending.isSome = true) :
    ∃ control, frame.header.opcode = .Control control := by
  have here := follows.clean _ clean
  rw [Clean, if_neg notAllowed, if_neg notCut] at here
  have notData : frame.header.opcode.isData = false := here.1 held
  cases opcode : frame.header.opcode with
  | Control control => exact ⟨control, rfl⟩
  | Data data => rw [opcode] at notData; cases notData

theorem Tracked.refused (tracked : Tracked past pending)
    (notData : pending.isSome = true → frame.header.opcode.isData = false) :
    Tracked (past ++ [.frame frame]) pending := by
  cases pending with
  | none => exact tracked_none _
  | some message =>
    refine tracked.skip fun message => ?_
    cases opcode : frame.header.opcode with
    | Control control => exact spellOn_control opcode message
    | Data data => simp [opcode, OpCode.isData] at notData

/-- A frame that is refused, and changes nothing. -/
theorem Follows.refused (follows : Follows rules past pending) (notAllowed : ¬ Allowed rules pending frame)
    (notCut : ¬ EndsCut rules pending frame) {more : List Arrival}
    (clean : Clean rules none (past ++ .frame frame :: more)) :
    Follows rules (past ++ [.frame frame]) pending := by
  refine ⟨follows.tracked.refused fun held => ?_, fun more clean => ?_⟩
  · obtain ⟨control, opcode⟩ := follows.control notAllowed notCut clean held
    simp [opcode, OpCode.isData]
  · rw [List.append_assoc] at clean
    have here := follows.clean _ clean
    rw [List.singleton_append, Clean, if_neg notAllowed, if_neg notCut] at here
    exact here.2

end Follows

/-! ## Rounds -/

namespace WebSocket

/-- The rules of a socket, whatever the state of the connection. -/
def openRules (target : Target) (socket : WebSocket) : Rules := { socket.rules target with active := true }

theorem next_openRules (target : Target) (socket : WebSocket) (pending : Option Pending) (frame : Frame) :
    (next (socket.openRules target) pending frame).2 = (next (socket.rules target) pending frame).2 := by
  unfold next
  cases frame.header.opcode with
  | Control control => cases control <;> rfl
  | Data data => cases frame.header.isFinal <;> rfl

/-- What a run goes by and does not change: the machine, the rules, and what the decoder is set to. -/
structure Setting where
  width : PointerWidth
  rules : Rules
  unmasking : Unmasking
  maxFrameSize : Option Nat

/-- The setting of a socket. -/
structure SetTo (setting : Setting) (socket : WebSocket) : Prop where
  rules : socket.openRules (.unlimited setting.width) = setting.rules
  unmasking : socket.frameCodec.inner.decoder.unmasking = setting.unmasking
  maxFrameSize : socket.frameCodec.inner.decoder.maxFrameSize = setting.maxFrameSize

theorem SetTo.moved {setting : Setting} {socket moved : WebSocket} (setTo : SetTo setting socket)
    (config : SameConfig socket.frameCodec.inner.decoder moved.frameCodec.inner.decoder)
    (role : moved.role = socket.role) (kept : moved.config = socket.config) : SetTo setting moved := by
  refine ⟨?_, config.unmasking.trans setTo.unmasking, config.maxFrameSize.trans setTo.maxFrameSize⟩
  rw [← setTo.rules]
  simp only [openRules, WebSocket.rules, role, kept]

/-- The whole frames of a stream of bytes, up to one that is too long for the decoder. -/
def Setting.readable (setting : Setting) (bytes : List UInt8) : List Arrival :=
  (((framesOf bytes).takeWhile fun frame => Within setting.maxFrameSize frame.length).filter WireFrame.whole).map
    (WireFrame.arrival setting.unmasking)

/-- What has to be on the wire for messages to be whole: no header declares a length that the machine cuts, and no
data frame is refused while a message is pending. -/
structure Intelligible (setting : Setting) (bytes : List UInt8) : Prop where
  fits : ∀ frame ∈ framesOf bytes, frame.length ≤ (Target.unlimited setting.width).usizeMax
  clean : Clean setting.rules none (setting.readable bytes)

/-- The socket has taken in these frames, and they spell its pending message. -/
structure Sound (setting : Setting) (socket : WebSocket) (frames : List WireFrame) : Prop where
  setTo : SetTo setting socket
  goesOn : socket.frameCodec.inner.errored = false
  inStep : InStep socket.frameCodec.inner frames
  within : ∀ frame ∈ frames, Within setting.maxFrameSize frame.length
  follows : Follows setting.rules (frames.map (WireFrame.arrival setting.unmasking)) socket.pending

variable {setting : Setting} {frames : List WireFrame} {total : List UInt8}

/-- What a call of the reader comes to, for a socket in step with the wire. -/
theorem Sound.came {socket : WebSocket} (sound : Sound setting socket frames)
    (fromWire : FromWire socket.frameCodec.inner.script)
    (part : (FramedRead.next (.unlimited setting.width) socket.frameCodec.inner).2.received <+: total)
    (intelligible : Intelligible setting total) :
    CameOn socket.frameCodec.inner frames (FramedRead.next (.unlimited setting.width) socket.frameCodec.inner) :=
  FramedRead.next_inStep setting.width fromWire sound.goesOn sound.inStep part intelligible.fits

/-- The frames that have been handed out come first, whatever more comes in. -/
theorem Setting.handed_readable {reader : FramedRead} (handed : Handed reader frames)
    (within : ∀ frame ∈ frames, Within setting.maxFrameSize frame.length) (part : reader.received <+: total) :
    frames.map (WireFrame.arrival setting.unmasking) <+: setting.readable total := by
  obtain ⟨done, whole, _, received⟩ := handed
  obtain ⟨more, rfl⟩ := part
  obtain ⟨fuel, _, split⟩ := whole.framesOf (reader.buffer ++ more)
  have first : ∀ frame ∈ frames, decide (Within setting.maxFrameSize frame.length) = true :=
    fun frame found => decide_eq_true (within frame found)
  rw [readable, received, List.append_assoc, split, List.takeWhile_append_of_pos first, List.filter_append,
    List.map_append, List.filter_eq_self.mpr whole.all_whole]
  exact List.prefix_append _ _

/-- All that has been handed out is clean, with what is still to come. -/
theorem Intelligible.clean_from {after : FramedRead} {wireFrame : WireFrame}
    (intelligible : Intelligible setting total) (handed : Handed after (frames ++ [wireFrame]))
    (within : ∀ frame ∈ frames ++ [wireFrame], Within setting.maxFrameSize frame.length)
    (part : after.received <+: total) :
    ∃ more, Clean setting.rules none (frames.map (WireFrame.arrival setting.unmasking) ++
      wireFrame.arrival setting.unmasking :: more) := by
  obtain ⟨more, split⟩ := Setting.handed_readable handed within part
  refine ⟨more, ?_⟩
  have clean := intelligible.clean
  rw [← split] at clean
  simpa using clean

/-- One more frame keeps to the limit. -/
theorem Sound.within_concat {socket : WebSocket} (sound : Sound setting socket frames) {wireFrame : WireFrame}
    (within : Within socket.frameCodec.inner.decoder.maxFrameSize wireFrame.length) :
    ∀ frame ∈ frames ++ [wireFrame], Within setting.maxFrameSize frame.length := by
  intro frame found
  rcases List.mem_append.mp found with old | new
  · exact sound.within frame old
  · rw [List.mem_singleton.mp new, ← sound.setTo.maxFrameSize]
    exact within

theorem Silent.received {target : Target} {socket last : WebSocket} (silent : Silent target socket last) :
    socket.frameCodec.inner.received <+: last.frameCodec.inner.received := by
  induction silent with
  | refl socket => exact List.prefix_refl _
  | @step socket last frame after incomplete canRead came grown allowed delivers pending wellFormed rest
      inductionHypothesis =>
    have here := FramedRead.next_received target socket.frameCodec.inner
    rw [came] at here
    exact here.trans inductionHypothesis

/-- The rounds that only add fragments keep the socket in step with the wire. -/
theorem Silent.sound {socket last : WebSocket} (silent : Silent (.unlimited setting.width) socket last)
    (sound : Sound setting socket frames) (fromWire : FromWire socket.frameCodec.inner.script)
    (part : last.frameCodec.inner.received <+: total) (intelligible : Intelligible setting total) :
    ∃ frames, Sound setting last frames ∧ FromWire last.frameCodec.inner.script := by
  induction silent generalizing frames with
  | refl socket => exact ⟨frames, sound, fromWire⟩
  | @step socket last frame after incomplete canRead came grown allowed delivers pending wellFormed rest
      inductionHypothesis =>
    have here : after.received <+: total := rest.received.trans part
    have arrived := sound.came fromWire (by rw [came]; exact here) intelligible
    rw [came] at arrived
    cases arrived with
    | @frame wireFrame _ _ within arrival readsOn handed config =>
      rw [sound.setTo.unmasking] at arrival
      have allowedOpen : Allowed setting.rules socket.pending frame := sound.setTo.rules ▸ allowed
      have goesOn : frame.header.opcode ≠ .Control .Close := by
        intro closes
        simp [Reassembly.next, closes] at delivers
      have follows := sound.follows.allowed allowedOpen goesOn
      rw [← arrival, ← List.map_singleton, ← List.map_append, ← sound.setTo.rules, next_openRules, ← pending] at follows
      exact inductionHypothesis ⟨sound.setTo.moved config rfl rfl, readsOn, .inl handed, sound.within_concat within,
        sound.setTo.rules ▸ follows⟩ (fromWire.next came) part

/-- The frames handed out so far end with those of the message. -/
def SpelledOut (setting : Setting) (socket : WebSocket) (message : Pending) : Prop :=
  ∃ part, part <:+ arrivals setting.unmasking socket.frameCodec.inner.consumed ∧ spell part = some (message, true)

/-- Reads return no more messages: the connection is closing, or its reader has failed. -/
def Spent (socket : WebSocket) : Prop := socket.state.canRead = false ∨ socket.frameCodec.inner.errored = true

/-- A read of such a socket goes no further than the reader, which returns nothing. -/
theorem Spent.rounded {target : Target} {socket last : WebSocket} {result : Reply × WebSocket}
    (errored : socket.frameCodec.inner.errored = true) (silent : Silent target socket last)
    (rounded : Rounded target last result) : result.2.state = .Terminated ∧ ∀ message, result.1 ≠ .ok message := by
  have returned := FramedRead.next_errored target errored
  cases silent with
  | step canRead came =>
    rw [returned] at came
    cases came
  | refl =>
    cases rounded with
    | eof came same => exact ⟨rfl, fun _ => nofun⟩
    | waits came | panics came | failed came | refused _ came | closed _ came | rejected _ came | accepted _ came =>
      rw [returned] at came
      cases came

/-- The end of a connection stays its end. -/
theorem Spent.step {target : Target} {socket : WebSocket} (spent : Spent socket) (wellFormed : socket.WellFormed)
    (call : Call) : Spent (WebSocket.step target socket call).2 ∧
      ∀ message, (WebSocket.step target socket call).1 ≠ .ok (some message) := by
  have stepped := step_stepped target wellFormed call
  rcases spent with closing | errored
  · refine ⟨.inl ((step_forward target wellFormed call).closing closing), fun message returned => ?_⟩
    have canRead : socket.state.canRead = true := (stepped.message_state returned).1
    rw [closing] at canRead
    cases canRead
  · have quiet : ∀ {result : Result Unit × WebSocket}, Quiet (install call socket) result →
        Spent (asUnitReply result).2 ∧ ∀ message, (asUnitReply result).1 ≠ .ok (some message) := by
      refine fun {result} quiet => ⟨.inr ?_, fun message => asUnitReply_message result message⟩
      rw [show (asUnitReply result).2 = result.2 from rfl, quiet.kept.inner]
      exact errored
    generalize WebSocket.step target socket call = result at stepped ⊢
    generalize call.op = op at stepped
    cases stepped with
    | terminated => exact ⟨.inr errored, fun _ => nofun⟩
    | closing => exact ⟨.inl rfl, fun _ => nofun⟩
    | read state reads silent lastWellFormed rounded =>
      have failed : (install call socket).frameCodec.inner.errored = true := errored
      obtain ⟨terminated, nothing⟩ := Spent.rounded failed silent rounded
      refine ⟨.inl ?_, fun message => nothing _⟩
      rw [terminated]
      rfl
    | write message => exact quiet (write_quiet message _)
    | flush => exact quiet (flush_quiet _)
    | close code => exact quiet (close_quiet code _)
    | setConfig setFunc => exact ⟨.inr errored, fun _ => nofun⟩

theorem Rounded.received {target : Target} {socket : WebSocket} {result : Reply × WebSocket}
    (rounded : Rounded target socket result) :
    socket.frameCodec.inner.received <+: result.2.frameCodec.inner.received := by
  rw [rounded.inner]
  exact FramedRead.next_received target socket.frameCodec.inner

/-- A frame that is refused ends a text that it cuts, and leaves everything else as it was. -/
theorem Sound.rejected {socket : WebSocket} (sound : Sound setting socket frames) {frame : Frame} {error : Error} {after : FramedRead}
    {incomplete : Option IncompleteMessage}
    (notAllowed : ¬ Allowed (socket.rules (.unlimited setting.width)) socket.pending frame)
    (refused : Refused (.unlimited setting.width) frame (socket.withReader after)
      (.err error, socket.handled after incomplete))
    {more : List Arrival} (clean : Clean setting.rules none
      (frames.map (WireFrame.arrival setting.unmasking) ++ .frame frame :: more)) :
    Follows setting.rules (frames.map (WireFrame.arrival setting.unmasking) ++ [.frame frame])
      (socket.handled after incomplete).pending := by
  have follows := sound.follows
  have notAllowedOpen : ¬ Allowed setting.rules socket.pending frame := sound.setTo.rules ▸ notAllowed
  obtain ⟨_, left, _, run, outcome⟩ := refused.outcome
  obtain rfl : incomplete = left := congrArg (fun result => result.2.incomplete) run
  rcases outcome with ⟨cut, rfl⟩ | ⟨notCut, unchanged⟩
  · have cutOpen : EndsCut setting.rules socket.pending frame := sound.setTo.rules ▸ cut
    exact follows.cut notAllowedOpen cutOpen
  · have notCutOpen : ¬ EndsCut setting.rules socket.pending frame := sound.setTo.rules ▸ notCut
    rcases unchanged with rfl | ⟨isContinue, held, _⟩
    · exact follows.refused notAllowedOpen notCutOpen clean
    · -- a fragment of the pending message is no control frame
      obtain ⟨control, isControl⟩ := follows.control notAllowedOpen notCutOpen clean held
      rw [isContinue] at isControl
      cases isControl

/-- A frame that is accepted goes into the pending message, unless it closes the connection. -/
theorem Sound.accepted {socket : WebSocket} (sound : Sound setting socket frames) {frame : Frame}
    (allowed : Allowed (socket.rules (.unlimited setting.width)) socket.pending frame)
    (stillCanRead : (stateAfter socket.state
      (next (socket.rules (.unlimited setting.width)) socket.pending frame).1).canRead = true) :
    Follows setting.rules (frames.map (WireFrame.arrival setting.unmasking) ++ [.frame frame])
      (next (socket.rules (.unlimited setting.width)) socket.pending frame).2 := by
  have allowedOpen : Allowed setting.rules socket.pending frame := sound.setTo.rules ▸ allowed
  have goesOn : frame.header.opcode ≠ .Control .Close := by
    intro closes
    rw [Reassembly.next, closes, stateAfter_close] at stillCanRead
    cases stillCanRead
  have follows := sound.follows.allowed allowedOpen goesOn
  rw [← sound.setTo.rules, next_openRules] at follows
  rw [← sound.setTo.rules]
  exact follows

/-- The last round of a read keeps the socket in step with the wire or ends the connection, and a message that it
returns is spelled out. -/
theorem Rounded.sound {socket : WebSocket} {result : Reply × WebSocket}
    (rounded : Rounded (.unlimited setting.width) socket result) (sound : Sound setting socket frames)
    (fromWire : FromWire socket.frameCodec.inner.script) (part : result.2.frameCodec.inner.received <+: total)
    (kept : result.2.state.canRead = true → result.2.frameCodec.inner.lost = [])
    (intelligible : Intelligible setting total) :
    (Spent result.2 ∨ ∃ frames, Sound setting result.2 frames) ∧
    (∀ kind payload, result.1 = .ok (some (IncompleteMessageType.message kind payload)) →
      SpelledOut setting result.2 ⟨kind, payload⟩) := by
  have arrived := sound.came fromWire (rounded.inner ▸ part) intelligible
  cases rounded with
  | waits came =>
    rw [came] at arrived
    cases arrived with
    | waits goesOn inStep config =>
      refine ⟨?_, nofun⟩
      cases canRead : socket.state.canRead with
      | false => exact .inl (.inl canRead)
      | true =>
        exact .inr ⟨frames, sound.setTo.moved config rfl rfl, goesOn, inStep (kept canRead), sound.within, sound.follows⟩
  | panics came =>
    rw [came] at arrived
    cases arrived
  | failed came | refused _ came =>
    rw [came] at arrived
    cases arrived with
    | failed errored => exact ⟨.inl (.inr errored), nofun⟩
  | eof came => exact ⟨.inl (.inl rfl), nofun⟩
  | closed closed came => exact ⟨.inl (.inl closed), nofun⟩
  | rejected canRead came grown notAllowed refused =>
    rw [came] at arrived
    cases arrived with
    | @frame wireFrame _ _ within arrival goesOn handed config =>
      rw [sound.setTo.unmasking] at arrival
      have within := sound.within_concat within
      refine ⟨.inr ⟨frames ++ [wireFrame], sound.setTo.moved config rfl rfl, goesOn, .inl handed, within, ?_⟩, nofun⟩
      obtain ⟨more, clean⟩ := intelligible.clean_from handed within part
      rw [arrival] at clean
      rw [List.map_append, List.map_singleton, arrival]
      exact sound.rejected notAllowed refused clean
  | @accepted frame after message incomplete canRead came grown shorter allowed delivers pending wellFormed =>
    have writes := reply_writesOnly (replyTo socket.state message) message (socket.delivered after incomplete message)
    have returned : ∀ returned, (Lib.andThen (autoSend (replyTo socket.state message)
        (socket.delivered after incomplete message)) fun _ socket => ((.ok message : Reply), socket)).1 = .ok returned →
        message = returned := fun _ run => (reply_value run).1
    generalize Lib.andThen (autoSend (replyTo socket.state message) (socket.delivered after incomplete message))
      (fun _ socket => ((.ok message : Reply), socket)) = result at writes returned part ⊢
    have inner : result.2.frameCodec.inner = after := writes.inner
    rw [came] at arrived
    cases arrived with
    | @frame wireFrame _ _ within arrival goesOn handed config =>
      rw [sound.setTo.unmasking] at arrival
      have setTo : SetTo setting result.2 := sound.setTo.moved (inner ▸ config) writes.role writes.config
      refine ⟨?_, ?_⟩
      · cases stillCanRead : result.2.state.canRead with
        | false => exact .inl (.inl stillCanRead)
        | true =>
          have same : result.2.pending = (next (socket.rules (.unlimited setting.width)) socket.pending frame).2 := by
            rw [← pending, WebSocket.pending, writes.incomplete]
            rfl
          rw [writes.state, show (socket.delivered after incomplete message).state = _ from rfl,
            delivers] at stillCanRead
          refine .inr ⟨frames ++ [wireFrame], setTo, inner ▸ goesOn, .inl (inner ▸ handed),
            sound.within_concat within, ?_⟩
          -- the reply leaves the pending message alone
          rw [same, List.map_append, List.map_singleton, arrival]
          exact sound.accepted allowed stillCanRead
      · intro kind payload run
        obtain rfl := returned _ run
        obtain ⟨arrivals, suffix, spelled⟩ := sound.follows.tracked.delivered allowed delivers.symm
        refine ⟨arrivals, ?_, spelled⟩
        rw [inner, handed.arrivals, List.map_append, List.map_singleton, arrival]
        exact suffix

/-! ## Steps and runs -/

/-- The operation leaves the configuration alone, and finds bytes on the stream and nothing else. -/
structure Plain (call : Call) : Prop where
  fromWire : FromWire call.reader
  keepsConfig : ∀ setFunc, call.op ≠ .setConfig setFunc

theorem Sound.kept {before after : WebSocket} (sound : Sound setting before frames) (kept : ReadSideKept before after) :
    Sound setting after frames := by
  have same : after.pending = before.pending := congrArg (Option.map _) kept.incomplete
  constructor
  case setTo =>
    refine ⟨?_, ?_, ?_⟩
    · rw [← sound.setTo.rules]
      simp only [openRules, rules, kept.role, kept.config]
    · rw [kept.inner]
      exact sound.setTo.unmasking
    · rw [kept.inner]
      exact sound.setTo.maxFrameSize
  case goesOn =>
    rw [kept.inner]
    exact sound.goesOn
  case inStep =>
    rw [kept.inner]
    exact sound.inStep
  case within => exact sound.within
  case follows =>
    rw [same]
    exact sound.follows

/-- What the steps of a run have to be like: what they find is intelligible, and as long as the connection can be read
no dropped read has lost any of it. -/
structure Undisturbed (setting : Setting) (socket : WebSocket) (call : Call) : Prop where
  plain : Plain call
  intelligible : Intelligible setting
    (WebSocket.step (.unlimited setting.width) socket call).2.frameCodec.inner.received
  kept : (WebSocket.step (.unlimited setting.width) socket call).2.state.canRead = true →
    (WebSocket.step (.unlimited setting.width) socket call).2.frameCodec.inner.lost = []

theorem Sound.step {socket : WebSocket} (sound : Sound setting socket frames) (wellFormed : socket.WellFormed)
    {call : Call} (undisturbed : Undisturbed setting socket call) :
    (Spent (WebSocket.step (.unlimited setting.width) socket call).2 ∨
      ∃ frames, Sound setting (WebSocket.step (.unlimited setting.width) socket call).2 frames) ∧
    (∀ kind payload, (WebSocket.step (.unlimited setting.width) socket call).1 =
      .ok (some (IncompleteMessageType.message kind payload)) →
      SpelledOut setting (WebSocket.step (.unlimited setting.width) socket call).2 ⟨kind, payload⟩) := by
  obtain ⟨plain, intelligible, kept⟩ := undisturbed
  have stepped := step_stepped (.unlimited setting.width) wellFormed call
  have installed : Sound setting (install call socket) frames := ⟨⟨sound.setTo.rules, sound.setTo.unmasking,
    sound.setTo.maxFrameSize⟩, sound.goesOn, sound.inStep, sound.within, sound.follows⟩
  have fromWire : FromWire (install call socket).frameCodec.inner.script := plain.fromWire
  -- the operations that only write leave the reader alone
  have quiet : ∀ {result : Result Unit × WebSocket}, Quiet (install call socket) result →
      (Spent (asUnitReply result).2 ∨ ∃ frames, Sound setting (asUnitReply result).2 frames) ∧ (∀ kind payload,
        (asUnitReply result).1 = .ok (some (IncompleteMessageType.message kind payload)) →
        SpelledOut setting (asUnitReply result).2 ⟨kind, payload⟩) :=
    fun {result} quiet => ⟨.inr ⟨frames, installed.kept quiet.kept⟩,
      fun kind payload returned => absurd returned (asUnitReply_message result _)⟩
  have keepsConfig := plain.keepsConfig
  generalize WebSocket.step (.unlimited setting.width) socket call = result at stepped intelligible kept ⊢
  generalize call.op = op at stepped keepsConfig
  cases stepped with
  | terminated => exact ⟨.inr ⟨frames, installed⟩, nofun⟩
  | closing => exact ⟨.inl (.inl rfl), nofun⟩
  | write message => exact quiet (write_quiet message _)
  | flush => exact quiet (flush_quiet _)
  | close code => exact quiet (close_quiet code _)
  | setConfig setFunc => exact absurd rfl (keepsConfig setFunc)
  | @read last _ state reads silent lastWellFormed rounded =>
    have grown : last.frameCodec.inner.received <+: result.2.frameCodec.inner.received := rounded.received
    obtain ⟨frames, lastSound, lastFromWire⟩ := silent.sound installed fromWire grown intelligible
    exact rounded.sound lastSound lastFromWire (List.prefix_refl _) kept intelligible

/-- What a new socket goes by. -/
def settingOf (width : PointerWidth) (role : Role) (config : Option WebSocketConfig) : Setting where
  width
  rules := (fromRawSocket .new role config).openRules (.unlimited width)
  unmasking := ⟨role = .Server, (config.getD .default).acceptUnmaskedFrames⟩
  maxFrameSize := (config.getD .default).maxFrameSize

/-- Every data message that is returned in the run is spelled out by the frames on the wire. -/
def MessagesWhole (width : PointerWidth) (role : Role) (config : Option WebSocketConfig) (calls : List Call) : Prop :=
  ∀ past call later kind payload, calls = past ++ call :: later →
    (step (.unlimited width) (reached (.unlimited width) .new role config past) call).1 =
      .ok (some (IncompleteMessageType.message kind payload)) →
    SpelledOut (settingOf width role config)
      (step (.unlimited width) (reached (.unlimited width) .new role config past) call).2 ⟨kind, payload⟩

/-- In every run in which all that comes in is intelligible and nothing of it is lost, messages are whole. -/
theorem messages_whole (width : PointerWidth) (role : Role) (config : Option WebSocketConfig) (calls : List Call)
    (undisturbed : Lib.Meets (step (.unlimited width)) (Undisturbed (settingOf width role config))
      (fromRawSocket .new role config) calls) :
    MessagesWhole width role config calls := by
  rintro past call later kind payload rfl returned
  obtain ⟨before, here, _⟩ := Lib.meets_append.mp undisturbed
  let Kept (socket : WebSocket) : Prop :=
    socket.WellFormed ∧ (Spent socket ∨ ∃ frames, Sound (settingOf width role config) socket frames)
  have preserved : ∀ (socket : WebSocket) (call : Call), Kept socket →
      Undisturbed (settingOf width role config) socket call → Kept (step (.unlimited width) socket call).2 := by
    rintro socket call ⟨wellFormed, spent | ⟨frames, sound⟩⟩ undisturbed
    · exact ⟨step_wellFormed _ wellFormed call, .inl (spent.step wellFormed call).1⟩
    · exact ⟨step_wellFormed _ wellFormed call, (sound.step wellFormed undisturbed).1⟩
  have initial : Sound (settingOf width role config) (fromRawSocket .new role config) [] :=
    ⟨⟨rfl, rfl, rfl⟩, rfl, .inl ⟨[], .nil, rfl, rfl⟩, fun _ nothing => absurd nothing List.not_mem_nil, follows_nil _⟩
  have start := fromRawSocket_wellFormed .new role config
  obtain ⟨wellFormed, spent | ⟨frames, sound⟩⟩ := @Lib.final_invariant _ _ _ (step (.unlimited width)) Kept
    _ preserved _ _ ⟨start, .inr ⟨[], initial⟩⟩ before
  · exact absurd returned ((spent.step wellFormed call).2 _)
  · exact (sound.step wellFormed here).2 kind payload returned

/-- A client reads a message in two fragments, with a ping in between. -/
def pingBetween : List Call :=
  [.reading .read [.fill [0x02, 1, 7, 0x89, 0, 0x80, 1, 8], .decode, .decode, .decode], .reading .read [.decode]]

theorem messages_whole_pingBetween :
    SpelledOut (settingOf .w64 .Client none)
      (step (.unlimited .w64) (reached (.unlimited .w64) .new .Client none (pingBetween.take 1))
        (.reading .read [.decode])).2 ⟨.Binary, [7, 8]⟩ := by
  have first : Plain (.reading .read [.fill [0x02, 1, 7, 0x89, 0, 0x80, 1, 8], .decode, .decode, .decode]) :=
    ⟨fun frame found => by simp [Call.reading] at found, fun _ => nofun⟩
  have second : Plain (.reading .read [.decode]) := ⟨fun frame found => by simp [Call.reading] at found, fun _ => nofun⟩
  refine messages_whole .w64 .Client none pingBetween ⟨⟨first, ?_, by decide⟩, ⟨second, ?_, by decide⟩, trivial⟩
    (pingBetween.take 1) _ [] .Binary [7, 8] rfl (by decide)
  · exact ⟨by decide, by decide⟩
  · exact ⟨by decide, by decide⟩

/-- No more than four bytes make a message. -/
def fourBytes : WebSocketConfig := { WebSocketConfig.default with maxMessageSize := some 4 }

/-- A client reads the first fragment of a message and a second one that is too long, and then a last one. -/
def bigFragment : List Call :=
  [.reading .read [.fill [0x02, 2, 1, 2, 0x00, 3, 3, 4, 5], .decode, .decode],
    .reading .read [.fill [0x80, 1, 6], .decode]]

/-- The message that comes out lacks the second fragment. -/
theorem not_messagesWhole_bigFragment : ¬ MessagesWhole .w64 .Client (some fourBytes) bigFragment := by
  intro whole
  obtain ⟨part, suffix, spelled⟩ := whole (bigFragment.take 1) _ [] .Binary [1, 2, 6] rfl (by decide)
  have none : ∀ part ∈ (arrivals (settingOf .w64 .Client (some fourBytes)).unmasking
      (step (.unlimited .w64) (reached (.unlimited .w64) .new .Client (some fourBytes) (bigFragment.take 1))
        (.reading .read [.fill [0x80, 1, 6], .decode])).2.frameCodec.inner.consumed).tails,
      spell part ≠ some (⟨.Binary, [1, 2, 6]⟩, true) := by decide
  exact none part ((List.mem_tails part _).mpr suffix) spelled

end WebSocket

end MonoioTungstenite
