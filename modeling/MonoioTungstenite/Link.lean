import MonoioTungstenite.Concord

/-! # What a connection is for

A connection as its users see it, without bytes, frames or buffers: two queues of messages.  An end puts messages into
its own queue until it has put in a close message, and takes the messages of the other one in order.  Pings and close
messages are answered as they are taken.  `Link.Moves` says which operation may return what, and what it does to the
queues.  Along every way of this system (`Link.path_kept`) nothing is lost, invented or reordered, and a close message is
under way or has been taken. -/

namespace MonoioTungstenite

open WebSocket

/-! ## Messages -/

/-- `Message::is_close` -/
def Message.isClose : Message → Bool
  | .Close _ => true
  | _ => false

/-- A close frame as it arrives: its code is the one that its number stands for. -/
def CloseFrame.onWire (frame : CloseFrame) : CloseFrame := ⟨CloseCode.ofU16 frame.code.toU16, frame.reason⟩

/-- A message as it arrives. -/
def Message.onWire : Message → Message
  | .Close code => .Close (code.map CloseFrame.onWire)
  | message => message

/-- A message as it is passed on to the user: an end that has not closed does not take every close code. -/
def Message.passedOn (closed : Bool) : Message → Message
  | .Close (some frame) =>
    if closed = false ∧ ¬ frame.code.isAllowed then .Close (some ⟨.Protocol, protocolViolation⟩)
    else .Close (some frame)
  | message => message

/-- The message that is sent in answer to another one. -/
def Message.answer : Message → Option Message
  | .Ping data => some (.Pong data)
  | .Close code => some (.Close code)
  | _ => none

@[simp] theorem Message.isContent_onWire (message : Message) : message.onWire.isContent = message.isContent := by
  cases message <;> rfl

@[simp] theorem Message.isClose_onWire (message : Message) : message.onWire.isClose = message.isClose := by
  cases message <;> rfl

theorem Message.passedOn_of_not_close {message : Message} (other : message.isClose = false) (closed : Bool) :
    message.passedOn closed = message := by
  cases message with
  | Close code => cases other
  | _ => rfl

@[simp] theorem Message.isClose_passedOn (closed : Bool) (message : Message) :
    (message.passedOn closed).isClose = message.isClose := by
  unfold passedOn
  split
  next => split <;> rfl
  next => rfl

theorem Message.content_onWire (message : Message) :
    [message.onWire].filter isContent = ((some message).filter isContent).toList := by
  cases message <;> rfl

theorem Message.content_passedOn (closed : Bool) (message : Message) :
    ((some (message.passedOn closed)).filter isContent).toList = [message].filter isContent := by
  cases kind : message.isClose with
  | false =>
    rw [passedOn_of_not_close kind]
    cases message <;> rfl
  | true =>
    have same := isClose_passedOn closed message
    rw [kind] at same
    cases message <;> cases kind
    generalize passedOn closed _ = passed at same
    cases passed <;> first | rfl | cases same

/-- A close message, and no other one, is answered with a close message. -/
theorem Message.isClose_answer (message : Message) :
    (message.answer.map isClose).getD false = message.isClose := by
  cases message <;> rfl

/-- An answer is not passed on for the sake of the connection. -/
theorem Message.isContent_answer {message reply : Message} (answers : message.answer = some reply) :
    reply.isContent = false := by
  cases message <;> cases answers <;> rfl

/-! ## The queues -/

/-- The messages that each end has sent and the other one has not taken, and the ends that have sent a close message. -/
structure Link where
  underWay : Role → List Message
  closed : Role → Bool

namespace Link

def new : Link := ⟨fun _ => [], fun _ => false⟩

/-- An end sends a message. -/
def put (role : Role) (message : Message) (link : Link) : Link where
  underWay := Function.update link.underWay role (link.underWay role ++ [message.onWire])
  closed := Function.update link.closed role (link.closed role || message.isClose)

/-- An end that has not closed sends this in answer to a message. -/
def replies (role : Role) (message : Message) (link : Link) : Option Message :=
  if link.closed role then none else (message.passedOn false).answer

/-- An end takes the first message of the other one, and answers it. -/
def take (role : Role) (message : Message) (later : List Message) (link : Link) : Link :=
  let taken : Link := { link with underWay := Function.update link.underWay role.other later }
  match link.replies role message with
  | some reply => taken.put role reply
  | none => taken

/-- Both ends have closed, and this one has taken all that the other one has sent. -/
structure Over (link : Link) (role : Role) : Prop where
  closed : link.closed role = true
  otherClosed : link.closed role.other = true
  nothing : link.underWay role.other = []

/-- A server for which the connection is over shuts it down when it is asked to flush. -/
def ShutsDown (link : Link) (role : Role) : Prop := role = .Server ∧ link.Over role

/-- What an operation of an end may return, and what it then does to the queues. -/
inductive Moves (role : Role) (link : Link) : Op → Reply → Link → Prop
  | sends {message : Message} (opened : link.closed role = false) (made : message.isClose = false) :
    Moves role link (.write message) (.ok none) (link.put role message)
  | closes {op : Op} {code : Option CloseFrame} (opened : link.closed role = false) (asked : closeAsked op = some code) :
    Moves role link op (.ok none) (link.put role (.Close code))
  | refuses {message : Message} {error : Error} (closed : link.closed role = true)
    (kind : error = .AlreadyClosed ∨ error = .Protocol .SendAfterClosing) :
    Moves role link (.write message) (.err error) link
  | flushes (goesOn : ¬ link.ShutsDown role) : Moves role link .flush (.ok none) link
  | hasClosed {code : Option CloseFrame} (closed : link.closed role = true) (goesOn : ¬ link.ShutsDown role) :
    Moves role link (.close code) (.ok none) link
  | shutsDown {op : Op} (flushing : op = .flush ∨ ∃ code, op = .close code) (ends : link.ShutsDown role) :
    Moves role link op (.err .ConnectionClosed) link
  | takes {message : Message} {later : List Message} (first : link.underWay role.other = message :: later) :
    Moves role link .read (.ok (some (message.passedOn (link.closed role)))) (link.take role message later)
  | ends {error : Error} (isOver : link.Over role) (kind : error = .AlreadyClosed ∨ error = .ConnectionClosed) :
    Moves role link .read (.err error) link

/-- The moves, by the turn and what it returns. -/
def Turn (label : (Role × Call) × Reply) (before after : Link) : Prop :=
  before.Moves label.1.1 label.1.2.op label.2 after

theorem Moves.flushed {role : Role} {link next : Link} {reply : Reply} (moves : link.Moves role .flush reply next) :
    next = link := by
  cases moves with
  | flushes => rfl
  | shutsDown => rfl
  | closes opened asked => cases asked

theorem Moves.took {role : Role} {link next : Link} {message returned : Message} {later : List Message}
    (moves : link.Moves role .read (.ok (some returned)) next) (first : link.underWay role.other = message :: later) :
    next = link.take role message later := by
  cases moves with
  | takes other =>
    rw [first] at other
    cases other
    rfl

/-- A read takes nothing where nothing is under way. -/
theorem Moves.idle {role : Role} {link next : Link} {reply : Reply} (moves : link.Moves role .read reply next)
    (nothing : link.underWay role.other = []) : next = link := by
  cases moves with
  | takes first =>
    rw [nothing] at first
    cases first
  | closes opened asked => cases asked
  | shutsDown flushing => rcases flushing with same | ⟨code, same⟩ <;> cases same
  | ends => rfl

/-! ## What a move changes -/

section Changes

variable (link : Link) (role : Role) (message : Message)

@[simp] theorem put_underWay_self : (link.put role message).underWay role = link.underWay role ++ [message.onWire] :=
  Function.update_self ..

@[simp] theorem put_underWay_other : (link.put role message).underWay role.other = link.underWay role.other :=
  Function.update_of_ne (by cases role <;> nofun) ..

@[simp] theorem put_closed_self : (link.put role message).closed role = (link.closed role || message.isClose) :=
  Function.update_self ..

@[simp] theorem put_closed_other : (link.put role message).closed role.other = link.closed role.other :=
  Function.update_of_ne (by cases role <;> nofun) ..

variable (later : List Message)

@[simp] theorem take_underWay_self : (link.take role message later).underWay role =
    link.underWay role ++ ((link.replies role message).map Message.onWire).toList := by
  have apart : role ≠ role.other := by cases role <;> nofun
  unfold take
  cases link.replies role message with
  | none => simp [Function.update_of_ne apart]
  | some reply => simp [put, Function.update_of_ne apart]

@[simp] theorem take_underWay_other : (link.take role message later).underWay role.other = later := by
  unfold take
  cases link.replies role message with
  | none => exact Function.update_self ..
  | some reply =>
    rw [put_underWay_other]
    exact Function.update_self ..

@[simp] theorem take_closed_self :
    (link.take role message later).closed role = (link.closed role || message.isClose) := by
  have answered := (message.passedOn false).isClose_answer
  rw [Message.isClose_passedOn] at answered
  unfold take replies
  cases closed : link.closed role with
  | true => simp [closed]
  | false =>
    rw [if_neg Bool.false_ne_true, ← answered]
    cases (message.passedOn false).answer with
    | none => exact closed
    | some reply => simp [closed]

@[simp] theorem take_closed_other : (link.take role message later).closed role.other = link.closed role.other := by
  unfold take
  cases link.replies role message with
  | none => rfl
  | some reply => exact put_closed_other ..

end Changes

/-! ## What holds along every way -/

/-- Nothing but what is written goes into a queue, and nothing but what is returned comes out, at the other end. -/
theorem Moves.conserves {link next : Link} {role : Role} {op : Op} {reply : Reply}
    (moves : link.Moves role op reply next) :
    (next.underWay role).filter Message.isContent =
        (link.underWay role).filter Message.isContent ++ (writtenBy op reply).toList ∧
      (link.underWay role.other).filter Message.isContent =
        (returnedBy reply).toList ++ (next.underWay role.other).filter Message.isContent := by
  cases moves with
  | @sends message opened made =>
    rw [put_underWay_self, put_underWay_other, List.filter_append, Message.content_onWire]
    exact ⟨rfl, rfl⟩
  | @closes _ code opened asked =>
    rw [put_underWay_self, put_underWay_other, List.filter_append, Message.content_onWire,
      writtenBy_flushing (.inr (by rw [asked]; rfl))]
    exact ⟨rfl, rfl⟩
  | refuses | flushes | hasClosed | ends => exact ⟨(List.append_nil _).symm, rfl⟩
  | shutsDown =>
    have nothing : writtenBy op (.err .ConnectionClosed) = none := by cases op <;> rfl
    rw [nothing]
    exact ⟨(List.append_nil _).symm, rfl⟩
  | @takes message later first =>
    have answers : ((link.replies role message).map Message.onWire).toList.filter Message.isContent = [] := by
      unfold replies
      cases link.closed role with
      | true => rfl
      | false =>
        cases answered : (message.passedOn false).answer with
        | none => simp
        | some reply => simp [Message.isContent_answer answered]
    rw [take_underWay_self, take_underWay_other, List.filter_append, answers, first, returnedBy,
      Message.content_passedOn, ← List.filter_append]
    exact ⟨rfl, rfl⟩

/-- An end that has closed: the other one has closed too, or the close message is on its way. -/
def Announced (link : Link) (role : Role) : Prop :=
  link.closed role = true → link.closed role.other = true ∨ ∃ message ∈ link.underWay role, message.isClose = true

theorem Moves.announced {link next : Link} {role : Role} {op : Op} {reply : Reply}
    (moves : link.Moves role op reply next) (announced : ∀ role, link.Announced role) :
    next.Announced role ∧ next.Announced role.other := by
  have own := announced role
  have others := announced role.other
  unfold Announced at own others ⊢
  rw [Role.other_other] at others ⊢
  cases moves with
  | @sends message opened made =>
    rw [put_closed_self, put_closed_other, put_underWay_other, opened, made]
    refine ⟨nofun, fun closed => ?_⟩
    rw [opened] at others
    exact others closed
  | @closes _ code opened asked =>
    rw [put_closed_self, put_closed_other, put_underWay_self]
    refine ⟨fun _ => .inr ⟨_, List.mem_append_right _ (List.mem_singleton_self _), rfl⟩, fun _ => .inl ?_⟩
    rw [Message.isClose, Bool.or_true]
  | refuses | flushes | hasClosed | shutsDown | ends => exact ⟨own, others⟩
  | @takes message later first =>
    rw [take_closed_self, take_closed_other, take_underWay_self, take_underWay_other]
    rw [first] at others
    constructor
    · intro closed
      cases already : link.closed role with
      | true =>
        rcases own already with otherClosed | ⟨close, found, closes⟩
        · exact .inl otherClosed
        · exact .inr ⟨close, List.mem_append_left _ found, closes⟩
      | false =>
        -- the answer is a close message, and under way now
        rw [already, Bool.false_or] at closed
        have answered := (message.passedOn false).isClose_answer
        rw [Message.isClose_passedOn, closed] at answered
        rw [replies, if_neg (by rw [already]; exact Bool.false_ne_true)]
        cases found : (message.passedOn false).answer with
        | none =>
          rw [found] at answered
          cases answered
        | some reply =>
          rw [found] at answered
          exact .inr ⟨reply.onWire, List.mem_append_right _ (List.mem_singleton_self _),
            (Message.isClose_onWire reply).trans answered⟩
    · intro otherClosed
      rcases others otherClosed with closed | ⟨close, found, closes⟩
      · exact .inl (by rw [closed, Bool.true_or])
      · rw [List.mem_cons] at found
        rcases found with rfl | later
        · exact .inl (by rw [closes, Bool.or_true])
        · exact .inr ⟨close, later, closes⟩

/-- An end that has closed stays closed. -/
theorem Moves.stays {link next : Link} {moving : Role} {op : Op} {reply : Reply}
    (moves : link.Moves moving op reply next) {role : Role} (closed : link.closed role = true) :
    next.closed role = true := by
  have cases : role = moving ∨ role = moving.other := by cases role <;> cases moving <;> simp [Role.other]
  cases moves with
  | sends | closes =>
    rcases cases with rfl | rfl
    · rw [put_closed_self, closed, Bool.true_or]
    · rw [put_closed_other, closed]
  | takes =>
    rcases cases with rfl | rfl
    · rw [take_closed_self, closed, Bool.true_or]
    · rw [take_closed_other, closed]
  | refuses | flushes | hasClosed | shutsDown | ends => exact closed

theorem path_stays {labels : List ((Role × Call) × Reply)} {link after : Link} (path : Lib.Path Turn link labels after)
    {role : Role} (closed : link.closed role = true) : after.closed role = true := by
  induction path with
  | refl => exact closed
  | step moved rest inductionHypothesis => exact inductionHypothesis (Moves.stays moved closed)

/-- What is asked of an end that has closed puts nothing into its queue. -/
theorem Moves.closed_written {link next : Link} {role : Role} {op : Op} {reply : Reply}
    (moves : link.Moves role op reply next) (closed : link.closed role = true) : writtenBy op reply = none := by
  cases moves with
  | sends opened | closes opened =>
    rw [closed] at opened
    cases opened
  | shutsDown => cases op <;> rfl
  | refuses | flushes | hasClosed | takes | ends => rfl

theorem path_closed_written {labels : List ((Role × Call) × Reply)} {link after : Link}
    (path : Lib.Path Turn link labels after) {role : Role} (closed : link.closed role = true) :
    Network.written role labels = [] := by
  induction path with
  | refl => rfl
  | @step before next after label labels moved rest inductionHypothesis =>
    obtain ⟨⟨moving, call⟩, reply⟩ := label
    have later : Network.written role labels = [] := inductionHypothesis (Moves.stays moved closed)
    have first : (if moving = role then writtenBy call.op reply else none) = none := by
      split
      next same => exact Moves.closed_written moved (same ▸ closed)
      next => rfl
    simp only [Network.written, List.filterMap_cons, first]
    exact later

/-- What the turns so far say about the queues: what an end has written has been returned by the other one or is under
way, in the order in which it was written; and no close message has got lost. -/
structure Kept (past : List ((Role × Call) × Reply)) (link : Link) : Prop where
  conserves : ∀ role, Network.written role past =
    Network.returned role.other past ++ (link.underWay role).filter Message.isContent
  announced : ∀ role, link.Announced role

theorem turn_kept {past : List ((Role × Call) × Reply)} {link next : Link} {label : (Role × Call) × Reply}
    (kept : Kept past link) (moved : Turn label link next) : Kept (past ++ [label]) next := by
  obtain ⟨⟨moving, call⟩, reply⟩ := label
  have notMoving : ¬ moving = moving.other := fun same => moving.other_ne same.symm
  obtain ⟨sent, taken⟩ := moved.conserves
  obtain ⟨own, others⟩ := moved.announced kept.announced
  have cases : ∀ role, role = moving ∨ role = moving.other := by
    intro role
    cases role <;> cases moving <;> simp [Role.other]
  constructor
  case conserves =>
    intro role
    rw [Network.written_append, Network.returned_append, kept.conserves role]
    rcases cases role with rfl | rfl
    · rw [if_pos rfl, if_neg notMoving, sent, Option.toList_none, List.append_nil, List.append_assoc]
    · rw [if_neg notMoving, Role.other_other, if_pos rfl, taken, Option.toList_none, List.append_nil, List.append_assoc]
  case announced =>
    intro role
    rcases cases role with rfl | rfl
    · exact own
    · exact others

theorem path_kept {labels : List ((Role × Call) × Reply)} {link : Link} (path : Lib.Path Turn new labels link) :
    Kept labels link :=
  have preserved : ∀ past before label after, Kept past before → Turn label before after →
      Kept (past ++ [label]) after := fun _ _ _ _ kept moved => turn_kept kept moved
  have initial : Kept [] new := ⟨fun _ => rfl, fun _ closed => absurd closed Bool.false_ne_true⟩
  path.invariant preserved initial

end Link

end MonoioTungstenite
