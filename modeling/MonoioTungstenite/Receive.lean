import MonoioTungstenite.Reassembly

/-! # Receiving a frame

`receiveFrame` does what `Reassembly` says: a frame that is allowed delivers its message and leaves the
pending message the grammar says is pending (`receiveFrame_allowed`); any other frame is refused, and
`receiveFrame_refused` says what is then left of the pending message. -/

namespace MonoioTungstenite

open Lib.Utf8 Reassembly

/-! ## Single steps -/

theorem Utf8Bytes.tryFrom_cases (bytes : List UInt8) :
    (Valid bytes ∧ tryFrom bytes = .ok ⟨bytes⟩) ∨ (¬ Valid bytes ∧ tryFrom bytes = .error (.Utf8 .basic)) := by
  rw [← fromUtf8_ok_iff]
  unfold tryFrom
  cases fromUtf8 bytes with
  | ok _ => exact .inl ⟨rfl, rfl⟩
  | error error => exact .inr ⟨nofun, rfl⟩

theorem checkMaxSize_cases (size : Nat) (maxSize : Option Nat) :
    ((∀ limit ∈ maxSize, size ≤ limit) ∧ checkMaxSize size maxSize = .ok ()) ∨
    (∃ limit ∈ maxSize, limit < size ∧
      checkMaxSize size maxSize = .error (.Capacity (.MessageTooLong size limit))) := by
  cases maxSize with
  | none => exact .inl ⟨nofun, rfl⟩
  | some limit =>
    by_cases tooLong : limit < size
    · exact .inr ⟨limit, rfl, tooLong, by rw [checkMaxSize, Option.filter_some_pos (by simpa using tooLong)]⟩
    · exact .inl ⟨by simpa using tooLong, by rw [checkMaxSize, Option.filter_some_neg (by simpa using tooLong)]⟩

/-- The errors with which a frame is refused. -/
def Refusal : Error → Prop
  | .Protocol _ | .Capacity _ | .Utf8 _ => True
  | _ => False

/-- The content of a close frame, as it stands on the wire. -/
def closeBody : List UInt8 → Option CloseFrame
  | high :: low :: reason => some ⟨CloseCode.ofU16 (UInt16.ofNat (Lib.ofBe [high, low])), ⟨reason⟩⟩
  | _ => none

theorem Frame.intoClose_cases (frame : Frame) :
    (CloseBody frame.payload ∧ frame.intoClose = .ok (closeBody frame.payload)) ∨
    (¬ CloseBody frame.payload ∧ ∃ error, Refusal error ∧ frame.intoClose = .error error) := by
  unfold intoClose CloseBody
  match frame.payload with
  | [] => exact .inl ⟨.inl rfl, rfl⟩
  | [_] => exact .inr ⟨by simp, .Protocol _, trivial, rfl⟩
  | high :: low :: reason =>
    rcases Utf8Bytes.tryFrom_cases reason with ⟨valid, made⟩ | ⟨invalid, failed⟩
    · exact .inl ⟨.inr ⟨by simp, valid⟩, by simp only [made]; rfl⟩
    · exact .inr ⟨by simpa using invalid, .Utf8 .basic, trivial, by simp only [failed]⟩

namespace WebSocket

/-- The message of which some frames have arrived. -/
def pending (socket : WebSocket) : Option Pending :=
  socket.incomplete.map fun message => ⟨message.kind, message.payload⟩

/-- What the socket goes by. -/
def rules (target : Target) (socket : WebSocket) : Rules where
  role := socket.role
  maxMessageSize := socket.config.maxMessageSize
  maxFragmented := IncompleteMessage.maxSize target socket.config.maxMessageSize
  active := socket.state.isActive

/-- The collected part of a message is one its collector can have come to. -/
def WellFormed (socket : WebSocket) : Prop := ∀ message ∈ socket.incomplete, message.WellFormed

/-- The reply to a message. -/
def replyTo (state : WebSocketState) : Option Message → Option Frame
  | some (.Ping data) => if state.isActive then some (Frame.pong data) else none
  | some (.Close code) => if state.isActive then some (Frame.close code) else none
  | _ => none

/-- The state of the connection after a message. -/
def stateAfter (state : WebSocketState) : Option Message → WebSocketState
  | some (.Close _) => if state.isActive then .ClosedByPeer else .CloseAcknowledged
  | _ => state

/-- What the socket does with an allowed frame. -/
structure Received (target : Target) (frame : Frame) (socket : WebSocket)
    (result : Result (Option Message × Option Frame) × WebSocket) : Prop where
  wellFormed : result.2.WellFormed
  pending_eq : result.2.pending = (next (socket.rules target) socket.pending frame).2
  outcome : ∃ message incomplete, message = (next (socket.rules target) socket.pending frame).1 ∧
    result = (.ok (message, replyTo socket.state message),
      { socket with state := stateAfter socket.state message, incomplete })

/-- What the socket does with any other frame.  A pending message that ends cut is given up.  Otherwise
it stays as it is, or, where a frame of it was being handled, within the bound but not to be trusted. -/
structure Refused (target : Target) (frame : Frame) (socket : WebSocket)
    (result : Result (Option Message × Option Frame) × WebSocket) : Prop where
  wellFormed : result.2.WellFormed
  outcome : ∃ error incomplete, Refusal error ∧ result = (.err error, { socket with incomplete }) ∧
    ((EndsCut (socket.rules target) socket.pending frame ∧ incomplete = none) ∨
      (¬ EndsCut (socket.rules target) socket.pending frame ∧ (incomplete = socket.incomplete ∨
        (frame.header.opcode = .Data .Continue ∧ socket.pending.isSome = true ∧
          ∃ message, incomplete = some message ∧
            message.payload.length ≤ (socket.rules target).maxFragmented))))

theorem doClose_eq {socket : WebSocket} (target : Target) (canRead : socket.state.canRead = true)
    (payload : List UInt8) :
    doClose (closeBody payload) socket =
      let message := Message.Close (closeOf (socket.rules target) payload)
      (.ok (some (closeOf (socket.rules target) payload), replyTo socket.state (some message)),
        { socket with state := stateAfter socket.state (some message) }) := by
  cases state : socket.state with
  -- on an active connection a code that is not allowed is replaced
  | Active =>
    have active : (socket.rules target).active = true := by rw [rules, state]; rfl
    match payload with
    | [] | [_] => simp only [doClose, state]; rfl
    | high :: low :: reason =>
      simp only [doClose, state, closeBody, closeOf, active, true_and, Option.map_some]
      split <;> rfl
  | ClosedByUs =>
    have active : (socket.rules target).active = false := by rw [rules, state]; rfl
    match payload with
    | [] | [_] => simp only [doClose, state]; rfl
    | high :: low :: reason =>
      simp only [doClose, state, closeBody, closeOf, active]
      rfl
  | ClosedByPeer | CloseAcknowledged | Terminated => rw [state] at canRead; cases canRead

/-! ## Control frames -/

theorem handleControl_cases (target : Target) {control : Control} {frame : Frame} {socket : WebSocket}
    (canRead : socket.state.canRead = true) (opcode : frame.header.opcode = .Control control) :
    (ControlAllowed control frame.header.isFinal frame.payload ∧
      handleControl control frame socket =
        let message := (next (socket.rules target) socket.pending frame).1
        (.ok (message, replyTo socket.state message), { socket with state := stateAfter socket.state message })) ∨
    (¬ ControlAllowed control frame.header.isFinal frame.payload ∧
      ∃ error, Refusal error ∧ handleControl control frame socket = (.err error, socket)) := by
  unfold ControlAllowed handleControl
  by_cases isFinal : frame.header.isFinal = true
  swap
  · exact .inr ⟨fun allowed => isFinal allowed.1, .Protocol .FragmentedControlFrame, trivial, if_pos isFinal⟩
  rw [if_neg (not_not_intro isFinal)]
  by_cases small : frame.payload.length ≤ 125
  swap
  · exact .inr ⟨fun allowed => small allowed.2.1, .Protocol .ControlFrameTooBig, trivial, if_pos (by omega)⟩
  rw [if_neg (by omega)]
  -- the length and the last bit are checked before the opcode
  cases control with
  | Ping => exact .inl ⟨⟨isFinal, small, trivial⟩, by simp only [next, opcode]; rfl⟩
  | Pong => exact .inl ⟨⟨isFinal, small, trivial⟩, by simp only [next, opcode]; rfl⟩
  | Reserved code =>
    exact .inr ⟨fun allowed => allowed.2.2, .Protocol (.UnknownControlFrameType code), trivial, rfl⟩
  | Close =>
    rcases frame.intoClose_cases with ⟨body, made⟩ | ⟨noBody, error, refusal, failed⟩
    · refine .inl ⟨⟨isFinal, small, body⟩, ?_⟩
      simp only [next, opcode, made, doClose_eq target canRead, Lib.andThen_ok]
      rfl
    · exact .inr ⟨fun allowed => noBody allowed.2.2, error, refusal, by simp only [failed]⟩

/-! ## Data frames -/

/-- `handleContinue`, while a message is pending. -/
theorem handleContinue_cases (target : Target) (frame : Frame) {socket : WebSocket} {held : IncompleteMessage}
    (collecting : socket.incomplete = some held) (wellFormed : held.WellFormed) :
    let all := held.payload ++ frame.payload
    let fits := PartAllowed (socket.rules target) held.kind all
    (fits ∧ frame.header.isFinal = true ∧ held.kind.MayBe all ∧
      handleContinue target frame socket = (.ok (some (held.kind.message all)), { socket with incomplete := none })) ∨
    (fits ∧ frame.header.isFinal = true ∧ ¬ held.kind.MayBe all ∧
      ∃ error, Refusal error ∧ handleContinue target frame socket = (.err error, { socket with incomplete := none })) ∨
    (fits ∧ frame.header.isFinal = false ∧ ∃ more : IncompleteMessage, more.WellFormed ∧ more.kind = held.kind ∧
      more.payload = all ∧
      handleContinue target frame socket = (.ok none, { socket with incomplete := some more })) ∨
    (¬ fits ∧ ∃ error more, Refusal error ∧ more.WellFormed ∧
      (more = held ∨ more.payload.length ≤ (socket.rules target).maxFragmented) ∧
      handleContinue target frame socket = (.err error, { socket with incomplete := some more })) := by
  intro all fits
  have extended := IncompleteMessage.extend_extended target wellFormed frame.payload socket.config.maxMessageSize
  have run : handleContinue target frame socket =
      Lib.andThen ((held.extend target frame.payload socket.config.maxMessageSize).map id
        fun message => { socket with incomplete := some message }) fun _ socket =>
          endFragment frame.header.isFinal socket := by
    simp only [handleContinue, collecting]
  rcases called : held.extend target frame.payload socket.config.maxMessageSize with ⟨result, more⟩
  rw [called] at extended run
  obtain ⟨moreWellFormed, kind, outcome⟩ := extended
  simp only at moreWellFormed kind outcome
  -- the fragment is too long, is taken in, or is refused by the collector, which may have kept a part of it
  rcases outcome with ⟨tooLong, same, failed⟩ | ⟨small, start, returned, payload⟩ |
    ⟨small, notStart, ⟨text, failed⟩, bound⟩
  · refine .inr (.inr (.inr ⟨fun fits => absurd fits.1 (Nat.not_le.mpr tooLong),
      .Capacity (.MessageTooLong (held.payload ++ frame.payload).length (socket.rules target).maxFragmented),
      more, trivial, moreWellFormed, .inl same, ?_⟩))
    rw [run, failed]
    rfl
  · subst returned
    cases isFinal : frame.header.isFinal with
    | false =>
      refine .inr (.inr (.inl ⟨⟨small, start⟩, rfl, more, moreWellFormed, kind, payload, ?_⟩))
      rw [run, isFinal]
      rfl
    | true =>
      rcases IncompleteMessage.complete_cases moreWellFormed with ⟨whole, completed⟩ | ⟨cut, text, completed⟩
      · rw [kind, payload] at whole completed
        refine .inl ⟨⟨small, start⟩, rfl, whole, ?_⟩
        rw [run, isFinal]
        simp only [Prod.map_apply, id, Lib.andThen_ok, endFragment, if_true, completed, all]
      · rw [kind, payload] at cut
        refine .inr (.inl ⟨⟨small, start⟩, rfl, cut, .Utf8 text, trivial, ?_⟩)
        rw [run, isFinal]
        simp only [Prod.map_apply, id, Lib.andThen_ok, endFragment, if_true, completed]
  · refine .inr (.inr (.inr ⟨fun fits => notStart fits.2, .Utf8 text, more, trivial, moreWellFormed,
      .inr (Nat.le_trans bound small), ?_⟩))
    rw [run, failed]
    rfl

/-- Beginning a message with the first of several frames. -/
theorem startMessage_cases (target : Target) {data : Data} {kind : IncompleteMessageType}
    (begins : kindOf data = some kind) {frame : Frame} (isFinal : frame.header.isFinal = false) (socket : WebSocket) :
    (PartAllowed (socket.rules target) kind frame.payload ∧ ∃ more : IncompleteMessage, more.WellFormed ∧
      more.kind = kind ∧ more.payload = frame.payload ∧
      handleFirst target data frame socket = (.ok none, { socket with incomplete := some more })) ∨
    (¬ PartAllowed (socket.rules target) kind frame.payload ∧
      ∃ error, Refusal error ∧ handleFirst target data frame socket = (.err error, socket)) := by
  obtain ⟨moreWellFormed, moreKind, outcome⟩ := IncompleteMessage.extend_extended target
    (IncompleteMessage.wellFormed_new kind) frame.payload socket.config.maxMessageSize
  simp only [IncompleteMessage.payload_new, IncompleteMessage.kind_new, List.nil_append] at moreKind outcome
  have run : handleFirst target data frame socket =
      let extended := (IncompleteMessage.new kind).extend target frame.payload socket.config.maxMessageSize
      Lib.andThen (extended.1, socket) fun _ socket => (.ok none, { socket with incomplete := some extended.2 }) := by
    unfold handleFirst
    rw [isFinal]
    cases data <;> cases begins <;> rfl
  rw [run]
  rcases outcome with ⟨tooLong, same, failed⟩ | ⟨small, start, returned, all⟩ | ⟨small, notStart, ⟨text, failed⟩, _⟩
  · refine .inr ⟨fun allowed => absurd allowed.1 (Nat.not_le.mpr tooLong),
      .Capacity (.MessageTooLong frame.payload.length (socket.rules target).maxFragmented), trivial, ?_⟩
    simp only [failed]
    rfl
  · refine .inl ⟨⟨small, start⟩, _, moreWellFormed, moreKind, all, ?_⟩
    simp only [returned, Lib.andThen_ok]
  · refine .inr ⟨fun allowed => notStart allowed.2, .Utf8 text, trivial, ?_⟩
    simp only [failed, Lib.andThen_err]

/-- A message in one frame. -/
theorem wholeMessage_cases (target : Target) {data : Data} {kind : IncompleteMessageType}
    (begins : kindOf data = some kind) {frame : Frame} (isFinal : frame.header.isFinal = true) (socket : WebSocket) :
    (WholeAllowed (socket.rules target) kind frame.payload ∧
      handleFirst target data frame socket = (.ok (some (kind.message frame.payload)), socket)) ∨
    (¬ WholeAllowed (socket.rules target) kind frame.payload ∧
      ∃ error, Refusal error ∧ handleFirst target data frame socket = (.err error, socket)) := by
  rcases checkMaxSize_cases frame.payload.length socket.config.maxMessageSize with
    ⟨small, passed⟩ | ⟨limit, bound, tooLong, failed⟩
  · cases data with
    | Continue | Reserved => cases begins
    | Text =>
      cases begins
      rcases Utf8Bytes.tryFrom_cases frame.payload with ⟨valid, made⟩ | ⟨invalid, failed⟩
      · refine .inl ⟨⟨small, valid⟩, ?_⟩
        simp only [handleFirst, isFinal, passed, Frame.intoText, made]
        rfl
      · refine .inr ⟨fun whole => invalid whole.2, .Utf8 .basic, trivial, ?_⟩
        simp only [handleFirst, isFinal, passed, Frame.intoText, failed]
    | Binary =>
      cases begins
      refine .inl ⟨⟨small, trivial⟩, ?_⟩
      simp only [handleFirst, isFinal, passed]
      rfl
  · refine .inr ⟨?_, .Capacity (.MessageTooLong frame.payload.length limit), trivial, ?_⟩
    · exact fun whole => absurd (whole.1 limit bound) (Nat.not_le.mpr tooLong)
    · cases data <;> cases begins <;> simp only [handleFirst, isFinal, failed]

/-- `handleFirst`, on the frames that begin a message. -/
theorem handleFirst_cases (target : Target) {data : Data} (frame : Frame) (socket : WebSocket)
    (notContinue : data ≠ .Continue) :
    let allowed := DataAllowed (socket.rules target) none data frame.header.isFinal frame.payload
    (allowed ∧ frame.header.isFinal = true ∧
      handleFirst target data frame socket =
        (.ok (some ((grown none data frame.payload).kind.message frame.payload)), socket)) ∨
    (allowed ∧ frame.header.isFinal = false ∧ ∃ more : IncompleteMessage, more.WellFormed ∧
      more.kind = (grown none data frame.payload).kind ∧ more.payload = frame.payload ∧
      handleFirst target data frame socket = (.ok none, { socket with incomplete := some more })) ∨
    (¬ allowed ∧ ∃ error, Refusal error ∧ handleFirst target data frame socket = (.err error, socket)) := by
  intro allowed
  cases begins : kindOf data with
  | none =>
    cases data with
    | Text | Binary => cases begins
    | Continue => exact absurd rfl notContinue
    | Reserved code =>
      refine .inr (.inr ⟨id, .Protocol (.UnknownDataFrameType code), trivial, ?_⟩)
      unfold handleFirst
      cases frame.header.isFinal <;> rfl
  | some kind =>
    have grownKind : (grown none data frame.payload).kind = kind := by simp only [grown, begins, Option.getD_some]
    rw [grownKind]
    cases isFinal : frame.header.isFinal with
    | false =>
      have part : allowed ↔ PartAllowed (socket.rules target) kind frame.payload := by
        cases data <;> cases begins <;> simp [allowed, DataAllowed, isFinal]
      rw [part]
      rcases startMessage_cases target begins isFinal socket with
        ⟨may, more, wellFormed, same, payload, started⟩ | ⟨mayNot, refused⟩
      · exact .inr (.inl ⟨may, rfl, more, wellFormed, same, payload, started⟩)
      · exact .inr (.inr ⟨mayNot, refused⟩)
    | true =>
      have whole : allowed ↔ WholeAllowed (socket.rules target) kind frame.payload := by
        cases data <;> cases begins <;> simp [allowed, DataAllowed, isFinal]
      rw [whole]
      rcases wholeMessage_cases target begins isFinal socket with ⟨may, run⟩ | ⟨mayNot, refused⟩
      · exact .inl ⟨may, rfl, run⟩
      · exact .inr (.inr ⟨mayNot, refused⟩)

/-! ## Frames -/

theorem pending_of_none {socket : WebSocket} (free : socket.incomplete = none) : socket.pending = none := by
  rw [pending, free, Option.map_none]

theorem pending_of_some {socket : WebSocket} {held : IncompleteMessage} (collecting : socket.incomplete = some held) :
    socket.pending = some ⟨held.kind, held.payload⟩ := by
  rw [pending, collecting, Option.map_some]

theorem wellFormed_of_some {more : IncompleteMessage} (wellFormed : more.WellFormed) (socket : WebSocket) :
    ({ socket with incomplete := some more } : WebSocket).WellFormed := by
  intro message held
  cases held
  exact wellFormed

theorem wellFormed_of_none (socket : WebSocket) : ({ socket with incomplete := none } : WebSocket).WellFormed :=
  fun _ => nofun

theorem fromRawSocket_wellFormed (stream : Stream) (role : Role) (config : Option WebSocketConfig) :
    (fromRawSocket stream role config).WellFormed := fun _ => nofun

/-- Where nothing changes, only the reason needs to be given. -/
theorem refused_unchanged {target : Target} {frame : Frame} {socket : WebSocket} {error : Error}
    (wellFormed : socket.WellFormed) (notCut : ¬ EndsCut (socket.rules target) socket.pending frame)
    (refusal : Refusal error) :
    Refused target frame socket ((.err error, socket) : Result (Option Message × Option Frame) × WebSocket) :=
  ⟨wellFormed, error, socket.incomplete, refusal, rfl, .inr ⟨notCut, .inl rfl⟩⟩

@[simp] theorem replyTo_message (state : WebSocketState) (kind : IncompleteMessageType) (payload : List UInt8) :
    replyTo state (some (kind.message payload)) = none := by cases kind <;> rfl

@[simp] theorem stateAfter_message (state : WebSocketState) (kind : IncompleteMessageType) (payload : List UInt8) :
    stateAfter state (some (kind.message payload)) = state := by cases kind <;> rfl

/-- A message has come to its end. -/
theorem received_whole (target : Target) {frame : Frame} (socket : WebSocket) {data : Data}
    (opcode : frame.header.opcode = .Data data) (isFinal : frame.header.isFinal = true) :
    let message := grown socket.pending data frame.payload
    Received target frame socket
      (.ok (some (message.kind.message message.payload), none), { socket with incomplete := none }) := by
  intro message
  have done : next (socket.rules target) socket.pending frame =
      (some (message.kind.message message.payload), none) := by
    simp only [next, opcode, isFinal, if_true, message]
  refine ⟨wellFormed_of_none socket, by rw [done]; rfl, _, none, rfl, ?_⟩
  rw [done, replyTo_message, stateAfter_message]

/-- A message has grown by a fragment. -/
theorem received_part {target : Target} {frame : Frame} {socket : WebSocket} {data : Data}
    {more : IncompleteMessage} (opcode : frame.header.opcode = .Data data) (isFinal : frame.header.isFinal = false)
    (wellFormed : more.WellFormed) (grownTo : ⟨more.kind, more.payload⟩ = grown socket.pending data frame.payload) :
    Received target frame socket (.ok (none, none), { socket with incomplete := some more }) := by
  have done : next (socket.rules target) socket.pending frame = (none, some ⟨more.kind, more.payload⟩) := by
    simp only [next, opcode, isFinal, grownTo]
    rfl
  refine ⟨wellFormed_of_some wellFormed socket, by rw [done]; rfl, _, some more, rfl, ?_⟩
  rw [done]
  rfl

theorem allowed_data_iff {rules : Rules} {pending : Option Pending} {data : Data} {frame : Frame}
    (opcode : frame.header.opcode = .Data data) (header : HeaderAllowed rules.role frame.header) :
    Allowed rules pending frame ↔ DataAllowed rules pending data frame.header.isFinal frame.payload := by
  simp only [Allowed, opcode, and_iff_right_iff_imp]
  exact fun _ => header

section Data

variable {target : Target} {data : Data} {frame : Frame} {socket : WebSocket}

/-- What becomes of a data frame. -/
def Settled (target : Target) (data : Data) (frame : Frame) (socket : WebSocket) : Prop :=
  (DataAllowed (socket.rules target) socket.pending data frame.header.isFinal frame.payload ∧
    Received target frame socket (handleData target data frame socket)) ∨
  (¬ DataAllowed (socket.rules target) socket.pending data frame.header.isFinal frame.payload ∧
    Refused target frame socket (handleData target data frame socket))

/-- No message is pending: there is nothing that could end inside a character. -/
theorem handleData_free (opcode : frame.header.opcode = .Data data) (wellFormed : socket.WellFormed)
    (free : socket.incomplete = none) : Settled target data frame socket := by
  have nothing := pending_of_none free
  have notCut : ¬ EndsCut (socket.rules target) socket.pending frame := by
    rintro ⟨_, _, _, message, held, _⟩
    rw [nothing] at held
    cases held
  unfold Settled handleData
  by_cases continues : data = .Continue
  · subst continues
    rw [if_pos rfl, nothing, handleContinue, free]
    exact .inr ⟨id, refused_unchanged wellFormed notCut trivial⟩
  · rw [if_neg continues, if_neg (by simp [free]), nothing]
    rcases handleFirst_cases target frame socket continues with
      ⟨allowed, isFinal, run⟩ | ⟨allowed, isFinal, more, moreWellFormed, kind, payload, run⟩ |
      ⟨notAllowed, error, refusal, run⟩
    · have received := received_whole target socket opcode isFinal
      have same : { socket with incomplete := none } = socket := by rw [← free]
      rw [same, nothing] at received
      rw [run, Lib.andThen_ok]
      exact .inl ⟨allowed, received⟩
    · rw [run, Lib.andThen_ok]
      exact .inl ⟨allowed, received_part opcode isFinal moreWellFormed (by rw [kind, payload, nothing]; rfl)⟩
    · rw [run, Lib.andThen_err]
      exact .inr ⟨notAllowed, refused_unchanged wellFormed notCut refusal⟩

/-- The next fragment of the message that is pending. -/
theorem handleData_fragment (opcode : frame.header.opcode = .Data .Continue)
    (header : HeaderAllowed socket.role frame.header) {held : IncompleteMessage}
    (collecting : socket.incomplete = some held) (wellFormed : held.WellFormed) :
    Settled target .Continue frame socket := by
  have known := pending_of_some collecting
  unfold Settled handleData
  rw [if_pos rfl, known]
  rcases handleContinue_cases target frame collecting wellFormed with
    ⟨fits, isFinal, whole, run⟩ | ⟨fits, isFinal, cut, error, refusal, run⟩ |
    ⟨fits, isFinal, more, moreWellFormed, kind, payload, run⟩ |
    ⟨tooMuch, error, more, refusal, moreWellFormed, left, run⟩
  · have received := received_whole target socket opcode isFinal
    rw [known] at received
    rw [run, Lib.andThen_ok]
    exact .inl ⟨⟨fits, fun _ => whole⟩, received⟩
  -- the one refusal that drops the pending message
  · have isCut : EndsCut (socket.rules target) socket.pending frame :=
      ⟨header, opcode, isFinal, _, known, fits, cut⟩
    rw [run, Lib.andThen_err]
    exact .inr ⟨fun allowed => cut (allowed.2 isFinal),
      wellFormed_of_none socket, error, none, refusal, rfl, .inl ⟨isCut, rfl⟩⟩
  · rw [run, Lib.andThen_ok]
    exact .inl ⟨⟨fits, by simp [isFinal]⟩,
      received_part opcode isFinal moreWellFormed (by rw [kind, payload, known]; rfl)⟩
  · have notCut : ¬ EndsCut (socket.rules target) socket.pending frame := by
      rintro ⟨_, _, _, message, isPending, fits, _⟩
      rw [known] at isPending
      cases isPending
      exact tooMuch fits
    rw [run, Lib.andThen_err]
    refine .inr ⟨fun allowed => tooMuch allowed.1,
      wellFormed_of_some moreWellFormed socket, error, some more, refusal, rfl, .inr ⟨notCut, ?_⟩⟩
    rcases left with rfl | small
    · exact .inl collecting.symm
    · exact .inr ⟨opcode, by rw [known]; rfl, more, rfl, small⟩

/-- A new message while another is pending. -/
theorem handleData_expected (opcode : frame.header.opcode = .Data data) (wellFormed : socket.WellFormed)
    {held : IncompleteMessage} (collecting : socket.incomplete = some held) (continues : data ≠ .Continue) :
    Settled target data frame socket := by
  have known := pending_of_some collecting
  have notAllowed : ¬ DataAllowed (socket.rules target) (some ⟨held.kind, held.payload⟩) data
      frame.header.isFinal frame.payload := by
    cases data <;> first | exact absurd rfl continues | exact id
  have notCut : ¬ EndsCut (socket.rules target) socket.pending frame := by
    rintro ⟨_, isContinue, _⟩
    rw [opcode] at isContinue
    cases isContinue
    exact continues rfl
  unfold Settled handleData
  rw [if_neg continues, collecting, Option.isSome_some, if_pos rfl, known]
  exact .inr ⟨notAllowed, refused_unchanged wellFormed notCut trivial⟩

end Data

/-- A data frame that is allowed, or one that is not. -/
theorem handleData_cases {target : Target} {data : Data} {frame : Frame} {socket : WebSocket}
    (opcode : frame.header.opcode = .Data data) (header : HeaderAllowed socket.role frame.header)
    (wellFormed : socket.WellFormed) :
    (Allowed (socket.rules target) socket.pending frame ∧
      Received target frame socket (handleData target data frame socket)) ∨
    (¬ Allowed (socket.rules target) socket.pending frame ∧
      Refused target frame socket (handleData target data frame socket)) := by
  rw [allowed_data_iff opcode header]
  cases collecting : socket.incomplete with
  | none => exact handleData_free opcode wellFormed collecting
  | some held =>
    by_cases continues : data = .Continue
    · subst continues
      exact handleData_fragment opcode header collecting (wellFormed held collecting)
    · exact handleData_expected opcode wellFormed collecting continues

theorem headerAllowed_iff (role : Role) (frame : Frame) :
    HeaderAllowed role frame.header ↔
      ¬ (frame.header.rsv1 = true ∨ frame.header.rsv2 = true ∨ frame.header.rsv3 = true) ∧
      ¬ (role = .Client ∧ frame.isMasked = true) := by
  simp only [HeaderAllowed, Frame.isMasked, not_or, Bool.not_eq_true, not_and, and_assoc,
    Option.isSome_eq_false_iff, Option.isNone_iff_eq_none]

theorem receiveFrame_cases (target : Target) (frame : Frame) (socket : WebSocket)
    (canRead : socket.state.canRead = true) (wellFormed : socket.WellFormed) :
    (Allowed (socket.rules target) socket.pending frame ∧
      Received target frame socket (receiveFrame target frame socket)) ∨
    (¬ Allowed (socket.rules target) socket.pending frame ∧
      Refused target frame socket (receiveFrame target frame socket)) := by
  -- the header is checked before the frame is handled
  have notHeader : ∀ {error : Error}, Refusal error → ¬ HeaderAllowed socket.role frame.header →
      ¬ Allowed (socket.rules target) socket.pending frame ∧ Refused target frame socket
        ((.err error, socket) : Result (Option Message × Option Frame) × WebSocket) :=
    fun refusal notAllowed => ⟨fun allowed => notAllowed allowed.1,
      refused_unchanged wellFormed (fun cut => notAllowed cut.1) refusal⟩
  unfold receiveFrame
  rw [if_neg (not_not_intro canRead)]
  by_cases reserved : frame.header.rsv1 = true ∨ frame.header.rsv2 = true ∨ frame.header.rsv3 = true
  · rw [if_pos reserved]
    exact .inr (notHeader trivial fun allowed => ((headerAllowed_iff _ _).mp allowed).1 reserved)
  rw [if_neg reserved]
  by_cases masked : socket.role = .Client ∧ frame.isMasked = true
  · rw [if_pos masked]
    exact .inr (notHeader trivial fun allowed => ((headerAllowed_iff _ _).mp allowed).2 masked)
  rw [if_neg masked]
  have header := (headerAllowed_iff socket.role frame).mpr ⟨reserved, masked⟩
  unfold handleFrame
  cases opcode : frame.header.opcode with
  | Data data => exact handleData_cases opcode header wellFormed
  | Control control =>
    have allowedIff : Allowed (socket.rules target) socket.pending frame ↔
        ControlAllowed control frame.header.isFinal frame.payload := by
      simp only [Allowed, opcode, and_iff_right_iff_imp]
      exact fun _ => header
    rw [allowedIff]
    rcases handleControl_cases target canRead opcode with ⟨allowed, run⟩ | ⟨notAllowed, error, refusal, run⟩
    · have kept : (next (socket.rules target) socket.pending frame).2 = socket.pending := by
        simp only [next, opcode]
        cases control <;> rfl
      have received : Received target frame socket (handleControl control frame socket) :=
        ⟨by rw [run]; exact wellFormed, by rw [run, kept]; rfl, _, socket.incomplete, rfl, run⟩
      exact .inl ⟨allowed, received⟩
    · have notCut : ¬ EndsCut (socket.rules target) socket.pending frame := by
        rintro ⟨_, isContinue, _⟩
        rw [opcode] at isContinue
        cases isContinue
      have refused : Refused target frame socket (handleControl control frame socket) := by
        rw [run]
        exact refused_unchanged wellFormed notCut refusal
      exact .inr ⟨notAllowed, refused⟩

end WebSocket

end MonoioTungstenite
