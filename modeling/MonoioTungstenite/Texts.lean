import MonoioTungstenite.Steps

/-! # What is handed to the user

Every text is UTF-8 (`texts_valid`), and no message is longer than the limit (`messages_limited`), in
every run: both follow from what `Reassembly` allows, once the collected part of a message is known to be
well formed. -/

namespace MonoioTungstenite

open Lib.Utf8 Reassembly

/-! ## Allowed frames -/

namespace Reassembly

theorem protocolViolation_valid : Valid protocolViolation.bytes := ⟨_, rfl⟩

/-- The reason of a close frame that is delivered. -/
theorem closeOf_reason {rules : Rules} {payload : List UInt8} {code : CloseFrame} (body : CloseBody payload)
    (delivered : closeOf rules payload = some code) : Valid code.reason.bytes := by
  match payload with
  | [] | [_] => cases delivered
  | high :: low :: reason =>
    have valid := (body.resolve_left nofun).2
    simp only [closeOf] at delivered
    split at delivered
    · cases delivered
      exact protocolViolation_valid
    · cases delivered
      exact valid

/-- Only a close frame delivers one. -/
theorem next_closes {rules : Rules} {pending : Option Pending} {frame : Frame} {code : Option CloseFrame}
    (delivered : (next rules pending frame).1 = some (.Close code)) :
    frame.header.opcode = .Control .Close ∧ closeOf rules frame.payload = code := by
  unfold next at delivered
  cases opcode : frame.header.opcode with
  | Control control =>
    rw [opcode] at delivered
    cases control with
    | Close => exact ⟨rfl, Message.Close.inj (Option.some.inj delivered)⟩
    | _ => cases delivered
  | Data data =>
    rw [opcode] at delivered
    cases isFinal : frame.header.isFinal <;> rw [isFinal] at delivered
    · cases delivered
    · cases kind : (grown pending data frame.payload).kind <;> simp [kind, IncompleteMessageType.message] at delivered

/-- The reason of a close frame that is delivered is UTF-8. -/
theorem next_close {rules : Rules} {pending : Option Pending} {frame : Frame}
    (allowed : Allowed rules pending frame) {code : CloseFrame}
    (delivered : (next rules pending frame).1 = some (.Close (some code))) : Valid code.reason.bytes := by
  obtain ⟨opcode, close⟩ := next_closes delivered
  have frameAllowed := allowed.2
  rw [opcode] at frameAllowed
  have body : CloseBody frame.payload := frameAllowed.2.2
  exact closeOf_reason body close

theorem message_inj {left right : IncompleteMessageType} {first second : List UInt8}
    (same : left.message first = right.message second) : left = right ∧ first = second := by
  cases left <;> cases right <;> cases same <;> exact ⟨rfl, rfl⟩

/-- Only the last frame of a data message delivers one. -/
theorem next_data {rules : Rules} {pending : Option Pending} {frame : Frame} {kind : IncompleteMessageType}
    {payload : List UInt8} (delivered : (next rules pending frame).1 = some (kind.message payload)) :
    ∃ data, frame.header.opcode = .Data data ∧ frame.header.isFinal = true ∧
      grown pending data frame.payload = ⟨kind, payload⟩ := by
  unfold next at delivered
  cases opcode : frame.header.opcode with
  | Control control => rw [opcode] at delivered; cases control <;> cases kind <;> cases delivered
  | Data data =>
    rw [opcode] at delivered
    cases isFinal : frame.header.isFinal with
    | false =>
      rw [isFinal] at delivered
      cases delivered
    | true =>
      rw [isFinal] at delivered
      obtain ⟨rfl, rfl⟩ := message_inj (Option.some.inj delivered)
      exact ⟨data, rfl, rfl, rfl⟩

/-- A data message that is delivered is whole, and within the bounds. -/
theorem next_message {rules : Rules} {pending : Option Pending} {frame : Frame}
    (allowed : Allowed rules pending frame) {kind : IncompleteMessageType} {payload : List UInt8}
    (delivered : (next rules pending frame).1 = some (kind.message payload)) :
    kind.MayBe payload ∧
      ((∀ maxSize ∈ rules.maxMessageSize, payload.length ≤ maxSize) ∨ payload.length ≤ rules.maxFragmented) := by
  obtain ⟨data, opcode, isFinal, whole⟩ := next_data delivered
  have dataAllowed := allowed.2
  simp only [opcode, isFinal] at dataAllowed
  cases pending with
  | some message =>
    cases data with
    | Continue =>
      cases whole
      exact ⟨dataAllowed.2 rfl, .inr dataAllowed.1.1⟩
    | _ => exact dataAllowed.elim
  | none =>
    cases data with
    | Text =>
      cases whole
      exact ⟨dataAllowed.2, .inl dataAllowed.1⟩
    | Binary =>
      cases whole
      exact ⟨dataAllowed.2, .inl dataAllowed.1⟩
    | _ => exact dataAllowed.elim

end Reassembly

namespace WebSocket

/-- What holds of a message that a round returns. -/
theorem Rounded.message {target : Target} {socket : WebSocket} {result : Reply × WebSocket} {message : Message}
    (rounded : Rounded target socket result) (returned : result.1 = .ok (some message)) :
    ∃ frame, Allowed (socket.rules target) socket.pending frame ∧
      (next (socket.rules target) socket.pending frame).1 = some message ∧
      ∃ history, result.2.frameCodec.inner.history = history ++ [.frame frame] ∧
        history = socket.frameCodec.inner.history := by
  cases rounded with
  | accepted canRead came grown shorter allowed delivers pending wellFormed =>
    obtain ⟨rfl, _, run⟩ := reply_value returned
    refine ⟨_, allowed, delivers.symm, _, ?_, rfl⟩
    rw [(reply_writesOnly _ _ _).inner]
    exact grown
  | _ => cases returned

/-- The rules of the socket that a read ends on are those it began with. -/
theorem Silent.rules_eq {target : Target} {socket last : WebSocket} (silent : Silent target socket last) :
    last.rules target = socket.rules target ∧ last.config = socket.config := by
  obtain ⟨after, incomplete, rfl⟩ := silent.keeps
  exact ⟨rfl, rfl⟩

/-- A message that a step returns has been allowed, under the rules in force before the step. -/
theorem Stepped.message {target : Target} {socket : WebSocket} {op : Op} {result : Reply × WebSocket}
    {message : Message} (stepped : Stepped target socket op result) (returned : result.1 = .ok (some message)) :
    ∃ pending frame, Allowed (socket.rules target) pending frame ∧
      (next (socket.rules target) pending frame).1 = some message := by
  cases stepped with
  | read state reads silent wellFormed rounded =>
    obtain ⟨frame, allowed, delivered, _⟩ := rounded.message returned
    rw [silent.rules_eq.1] at allowed delivered
    exact ⟨_, frame, allowed, delivered⟩
  | write => exact absurd returned (asUnitReply_message _ _)
  | flush => exact absurd returned (asUnitReply_message _ _)
  | close => exact absurd returned (asUnitReply_message _ _)
  | _ => cases returned

/-! ## Texts -/

/-- Every text handed to the user is UTF-8, in every run.  The data of a collector is UTF-8 and what it
keeps behind is nothing or the beginning of one character, at most three bytes; no slice, no checked
subtraction and no unchecked conversion goes wrong; and the texts and the close reasons that come out are
UTF-8. -/
theorem texts_valid (target : Target) (stream : Stream) (role : Role) (config : Option WebSocketConfig)
    (calls : List Call) (call : Call) :
    let socket := reached target stream role config calls
    let reply := (step target socket call).1
    (∀ collector, socket.incomplete = some ⟨.Text collector⟩ → Valid collector.data ∧
      (collector.incomplete.contents = [] ∨
        (PartialChar collector.incomplete.contents ∧ collector.incomplete.contents.length ≤ 3))) ∧
    (∀ site, reply = .panic site → site ≠ .sliceIndex ∧ site ≠ .checkedSubUnwrap ∧ site ≠ .uncheckedStr) ∧
    (∀ text, reply = .ok (some (.Text text)) → Valid text.bytes) ∧
    (∀ code, reply = .ok (some (.Close (some code))) → Valid code.reason.bytes) := by
  intro socket reply
  have wellFormed := reached_wellFormed target stream role config calls
  have stepped := step_stepped target wellFormed call
  refine ⟨?_, ?_, ?_, ?_⟩
  · intro collector collecting
    obtain ⟨valid, _, contents⟩ := wellFormed _ collecting
    exact ⟨valid, contents.imp_right fun part => ⟨part, part.length_le⟩⟩
  · intro site panicked
    rw [(stepped.panic panicked).1]
    exact ⟨nofun, nofun, nofun⟩
  · intro text returned
    obtain ⟨pending, frame, allowed, delivered⟩ := stepped.message returned
    have whole := next_message allowed (show _ = some (IncompleteMessageType.Text.message text.bytes) from delivered)
    exact whole.1
  · intro code returned
    obtain ⟨pending, frame, allowed, delivered⟩ := stepped.message returned
    exact next_close allowed delivered

/-! ## Sizes -/

/-- A step leaves the pending message as it was, or within the bound in force. -/
def PendingBounded (target : Target) (before after : WebSocket) : Prop :=
  after.pending = before.pending ∨
    ∀ message ∈ after.incomplete, message.payload.length ≤ (before.rules target).maxFragmented

theorem pendingBounded_of_pending {target : Target} {before after : WebSocket}
    (bounded : ∀ message ∈ after.pending, message.payload.length ≤ (before.rules target).maxFragmented) :
    PendingBounded target before after := by
  refine .inr fun message held => ?_
  exact bounded ⟨message.kind, message.payload⟩ (pending_of_some held)

theorem PendingBounded.trans {target : Target} {first second third : WebSocket}
    (rules : second.rules target = first.rules target) (left : PendingBounded target first second)
    (right : PendingBounded target second third) : PendingBounded target first third := by
  rcases right with same | bounded
  · rcases left with before | bounded
    · exact .inl (same.trans before)
    · refine pendingBounded_of_pending fun message held => ?_
      rw [same] at held
      obtain ⟨collected, isCollected, rfl⟩ := Option.map_eq_some_iff.mp held
      exact bounded collected isCollected
  · rw [rules] at bounded
    exact .inr bounded

/-- An allowed frame leaves the pending message alone, ends it, or adds to it within the bound. -/
theorem next_pending {rules : Rules} {pending : Option Pending} {frame : Frame}
    (allowed : Allowed rules pending frame) :
    (next rules pending frame).2 = pending ∨
      ∀ message ∈ (next rules pending frame).2, message.payload.length ≤ rules.maxFragmented := by
  have frameAllowed := allowed.2
  unfold next
  cases opcode : frame.header.opcode with
  | Control control => cases control <;> exact .inl rfl
  | Data data =>
    rw [opcode] at frameAllowed
    refine .inr ?_
    cases isFinal : frame.header.isFinal with
    | true => exact fun _ => nofun
    | false =>
      simp only [isFinal] at frameAllowed
      intro message held
      cases held
      cases pending with
      | some message =>
        cases data with
        | Continue => exact frameAllowed.1.1
        | _ => exact frameAllowed.elim
      | none =>
        cases data with
        | Text => exact frameAllowed.1
        | Binary => exact frameAllowed.1
        | _ => exact frameAllowed.elim

theorem Silent.bounded {target : Target} {socket last : WebSocket} (silent : Silent target socket last) :
    PendingBounded target socket last := by
  induction silent with
  | refl socket => exact .inl rfl
  | step canRead came grown allowed delivers pending wellFormed rest inductionHypothesis =>
    refine .trans (by rfl) ?_ inductionHypothesis
    rcases next_pending allowed with same | bounded
    · exact .inl (pending.trans same)
    · exact pendingBounded_of_pending (pending ▸ bounded)

theorem Rounded.bounded {target : Target} {socket : WebSocket} {result : Reply × WebSocket}
    (rounded : Rounded target socket result) : PendingBounded target socket result.2 := by
  cases rounded with
  | @rejected frame after error incomplete canRead came grown notAllowed refused =>
    obtain ⟨_, left, _, run, outcome⟩ := refused.outcome
    obtain rfl : incomplete = left := congrArg (fun result => result.2.incomplete) run
    rcases outcome with ⟨_, rfl⟩ | ⟨_, rfl | ⟨_, _, message, rfl, bounded⟩⟩
    · exact .inr fun _ => nofun
    · exact .inl rfl
    · refine .inr fun other held => ?_
      cases held
      exact bounded
  | accepted canRead came grown shorter allowed delivers pending wellFormed =>
    have same : ∀ reply message (socket : WebSocket),
        (Lib.andThen (autoSend reply socket) fun _ socket => ((.ok message : Reply), socket)).2.pending =
          socket.pending := by
      intro reply message socket
      rw [WebSocket.pending, (reply_writesOnly reply message socket).incomplete]
      rfl
    rcases next_pending allowed with unchanged | bounded
    · exact .inl ((same _ _ _).trans (pending.trans unchanged))
    · refine pendingBounded_of_pending ?_
      rw [same, pending]
      exact bounded
  | _ => exact .inl rfl

theorem Stepped.bounded {target : Target} {socket : WebSocket} {op : Op} {result : Reply × WebSocket}
    (stepped : Stepped target socket op result) : PendingBounded target socket result.2 := by
  have kept : ∀ {after : WebSocket}, ReadSideKept socket after → PendingBounded target socket after := by
    intro after kept
    exact .inl (congrArg (Option.map _) kept.incomplete)
  cases stepped with
  | read state reads silent wellFormed rounded => exact .trans silent.rules_eq.1 silent.bounded rounded.bounded
  | write message => exact kept (write_quiet message socket).kept
  | flush => exact kept (flush_quiet socket).kept
  | close code => exact kept (close_quiet code socket).kept
  | _ => exact .inl rfl

end WebSocket

namespace IncompleteMessage

/-- Adds the fragments of a message one after the other. -/
def collect (target : Target) (sizeLimit : Option Nat) : List (List UInt8) → IncompleteMessage →
    Result Unit × IncompleteMessage
  | [], message => (.ok (), message)
  | tail :: tails, message =>
    Lib.andThen (extend target tail sizeLimit message) fun _ message => collect target sizeLimit tails message

/-- A fragment that is added counts with all its bytes, and one is refused for its size if and only if the
message would then be longer than the bound. -/
theorem extend_len (target : Target) {message : IncompleteMessage} (wellFormed : message.WellFormed)
    (tail : List UInt8) (sizeLimit : Option Nat) :
    ((message.extend target tail sizeLimit).1 = .ok () →
      (message.extend target tail sizeLimit).2.len = message.len + tail.length ∧
        message.len + tail.length ≤ maxSize target sizeLimit) ∧
    ((∃ error, (message.extend target tail sizeLimit).1 = .err (.Capacity error)) ↔
      maxSize target sizeLimit < message.len + tail.length) := by
  have extended := extend_extended target wellFormed tail sizeLimit
  have total : (message.payload ++ tail).length = message.len + tail.length := by
    rw [List.length_append, wellFormed.length_payload]
  rw [← total]
  generalize message.extend target tail sizeLimit = result at extended ⊢
  obtain ⟨outcome, after⟩ := result
  rcases extended.outcome with ⟨tooLong, _, rfl⟩ | ⟨fits, _, rfl, all⟩ | ⟨fits, _, ⟨text, rfl⟩, _⟩
  · exact ⟨nofun, fun _ => tooLong, fun _ => ⟨_, rfl⟩⟩
  · refine ⟨fun _ => ⟨?_, fits⟩, nofun, fun tooLong => absurd fits (Nat.not_le.mpr tooLong)⟩
    rw [← extended.wellFormed.length_payload, all]
  · exact ⟨nofun, nofun, fun tooLong => absurd fits (Nat.not_le.mpr tooLong)⟩

/-- Fragments are judged by what they come to together. -/
theorem collect_len (target : Target) (sizeLimit : Option Nat) (tails : List (List UInt8))
    {message : IncompleteMessage} (wellFormed : message.WellFormed)
    (fits : message.len ≤ maxSize target sizeLimit) :
    ((collect target sizeLimit tails message).1 = .ok () →
      (collect target sizeLimit tails message).2.len = message.len + tails.flatten.length ∧
        message.len + tails.flatten.length ≤ maxSize target sizeLimit) ∧
    (∀ error, (collect target sizeLimit tails message).1 = .err (.Capacity error) →
      maxSize target sizeLimit < message.len + tails.flatten.length) := by
  induction tails generalizing message with
  | nil => exact ⟨fun _ => ⟨rfl, fits⟩, nofun⟩
  | cons tail tails inductionHypothesis =>
    obtain ⟨grows, tooLong⟩ := extend_len target wellFormed tail sizeLimit
    have stillWellFormed := (extend_extended target wellFormed tail sizeLimit).wellFormed
    have split : (tail :: tails).flatten.length = tail.length + tails.flatten.length := by simp
    rw [split, collect]
    generalize message.extend target tail sizeLimit = result at grows tooLong stillWellFormed ⊢
    obtain ⟨outcome, after⟩ := result
    cases outcome with
    | ok value =>
      obtain ⟨length, bound⟩ := grows rfl
      have rest := inductionHypothesis stillWellFormed (by rw [show after.len = _ from length]; exact bound)
      rw [show after.len = _ from length, Nat.add_assoc] at rest
      exact rest
    | err error =>
      refine ⟨nofun, fun capacity failed => ?_⟩
      obtain rfl : error = .Capacity capacity := by cases failed; rfl
      have := tooLong.mp ⟨capacity, rfl⟩
      omega
    | panic site => exact ⟨nofun, nofun⟩
    | pending => exact ⟨nofun, nofun⟩

/-- A message in several frames is judged as it would be in one. -/
theorem collect_judged (target : Target) (sizeLimit : Option Nat) (kind : IncompleteMessageType)
    (tails : List (List UInt8)) (held : tails.flatten.length ≤ target.usizeMax) :
    ((collect target sizeLimit tails (.new kind)).1 = .ok () →
      checkMaxSize tails.flatten.length sizeLimit = .ok ()) ∧
    (∀ error, (collect target sizeLimit tails (.new kind)).1 = .err (.Capacity error) →
      ∃ error, checkMaxSize tails.flatten.length sizeLimit = .error error) := by
  have wellFormed := wellFormed_new kind
  have empty : (new kind).len = 0 := by rw [← wellFormed.length_payload, payload_new]; rfl
  obtain ⟨grows, tooLong⟩ := collect_len target sizeLimit tails wellFormed (by rw [empty]; exact Nat.zero_le _)
  rw [empty, Nat.zero_add] at grows tooLong
  rcases checkMaxSize_cases tails.flatten.length sizeLimit with ⟨within, run⟩ | ⟨limit, found, exceeds, run⟩
  · refine ⟨fun _ => run, fun error failed => absurd (tooLong error failed) ?_⟩
    cases sizeLimit with
    | none => exact Nat.not_lt.mpr held
    | some limit => exact Nat.not_lt.mpr (within limit rfl)
  · refine ⟨fun returned => ?_, fun _ _ => ⟨_, run⟩⟩
    cases found
    exact absurd (grows returned).2 (Nat.not_le.mpr exceeds)

end IncompleteMessage

namespace WebSocket

/-- No message is longer than the limit, in every run.  A message that comes out is within the limit in
force; a step leaves the pending message alone or within the bound in force; and a fragment that is added
counts with all its bytes, so that a message in several frames is judged as it would be in one. -/
theorem messages_limited (target : Target) (stream : Stream) (role : Role) (config : Option WebSocketConfig)
    (calls : List Call) (call : Call) :
    let socket := reached target stream role config calls
    let result := step target socket call
    (∀ kind payload, result.1 = .ok (some (IncompleteMessageType.message kind payload)) →
      ∀ limit ∈ socket.config.maxMessageSize, payload.length ≤ limit) ∧
    (result.2.pending = socket.pending ∨ ∀ message ∈ result.2.incomplete,
      message.len ≤ IncompleteMessage.maxSize target socket.config.maxMessageSize) ∧
    (∀ message, (message ∈ socket.incomplete ∨ ∃ kind, message = .new kind) → ∀ tail sizeLimit,
      ((message.extend target tail sizeLimit).1 = .ok () →
        (message.extend target tail sizeLimit).2.len = message.len + tail.length ∧
          message.len + tail.length ≤ IncompleteMessage.maxSize target sizeLimit) ∧
      ((∃ error, (message.extend target tail sizeLimit).1 = .err (.Capacity error)) ↔
        IncompleteMessage.maxSize target sizeLimit < message.len + tail.length)) ∧
    (∀ kind sizeLimit tails, tails.flatten.length ≤ target.usizeMax →
      ((IncompleteMessage.collect target sizeLimit tails (.new kind)).1 = .ok () →
        checkMaxSize tails.flatten.length sizeLimit = .ok ()) ∧
      (∀ error, (IncompleteMessage.collect target sizeLimit tails (.new kind)).1 = .err (.Capacity error) →
        ∃ error, checkMaxSize tails.flatten.length sizeLimit = .error error)) := by
  intro socket result
  have wellFormed := reached_wellFormed target stream role config calls
  have stepped := step_stepped target wellFormed call
  refine ⟨?_, ?_, ?_, ?_⟩
  · intro kind payload returned limit inForce
    obtain ⟨pending, frame, allowed, delivered⟩ := stepped.message returned
    have bound : (∀ maxSize ∈ socket.config.maxMessageSize, payload.length ≤ maxSize) ∨
        payload.length ≤ IncompleteMessage.maxSize target socket.config.maxMessageSize :=
      (next_message allowed delivered).2
    -- a whole message is checked at once, a fragmented one with its last piece
    rcases bound with each | bound
    · exact each limit inForce
    · rw [show socket.config.maxMessageSize = some limit from inForce] at bound
      exact bound
  · rcases stepped.bounded with same | bounded
    · exact .inl same
    · refine .inr fun message held => ?_
      have messageWellFormed := stepped.wellFormed (install_wellFormed wellFormed call) message held
      rw [← messageWellFormed.length_payload]
      exact bounded message held
  · rintro message (held | ⟨kind, rfl⟩) tail sizeLimit
    · exact IncompleteMessage.extend_len target (wellFormed message held) tail sizeLimit
    · exact IncompleteMessage.extend_len target (IncompleteMessage.wellFormed_new kind) tail sizeLimit
  · intro kind sizeLimit tails held
    exact IncompleteMessage.collect_judged target sizeLimit kind tails held

end WebSocket

end MonoioTungstenite
