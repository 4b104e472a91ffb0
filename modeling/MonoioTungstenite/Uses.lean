import MonoioTungstenite.Outgoing

/-! # What a call asks of its codec

`accepts` follows the rounds of a read up to the frame that `handle_frame` takes for a message, before the
reply to it is sent.  With it `uses` gives the operations of the codec that a call performs, as a function
of the socket it finds (`perform_uses`). -/

namespace MonoioTungstenite

open Lib.Utf8 Reassembly

namespace WebSocket

open FrameCodec (Use useAll sends)

/-- A message that a read has taken in, the reply that it owes, and the socket before the reply is sent. -/
structure Accepted where
  message : Message
  reply : Option Frame
  socket : WebSocket

/-- The first message in the rounds of `read`. -/
def acceptLoop (target : Target) : Nat → WebSocket → Option Accepted
  | 0, _ => none
  | fuel + 1, socket =>
    match readMessageFrame target socket with
    | (.ok (some message, reply), socket) => some ⟨message, reply, socket⟩
    | (.ok (none, reply), socket) =>
      match autoSend reply socket with
      | (.ok _, socket) => acceptLoop target fuel socket
      | _ => none
    | _ => none

/-- The message that a read takes in, if there is one. -/
def accepts (target : Target) (socket : WebSocket) : Option Accepted :=
  if socket.state = .Terminated then none
  else if socket.role = .Server ∧ ¬ socket.state.canRead then none
  else acceptLoop target (socket.frameCodec.inner.script.length + 1) socket

/-! ## The rounds of a read -/

/-- How a read goes: it takes in a message and sends the reply before it returns, or it returns no message
and writes nothing. -/
inductive Reads (target : Target) (socket : WebSocket) : Option Accepted → Reply × WebSocket → Prop
  | accepted {last : WebSocket} {frame : Frame} {after : FramedRead} {message : Message}
    {incomplete : Option IncompleteMessage} (silent : Silent target socket last)
    (canRead : socket.state.canRead = true) (allowed : Allowed (last.rules target) last.pending frame)
    (delivers : some message = (next (last.rules target) last.pending frame).1) :
    Reads target socket
      (some ⟨message, replyTo socket.state (some message), last.delivered after incomplete (some message)⟩)
      (Lib.andThen (autoSend (replyTo socket.state (some message)) (last.delivered after incomplete (some message)))
        fun _ socket => (.ok (some message), socket))
  | nothing {result : Reply × WebSocket} (noMessage : ∀ message, result.1 ≠ .ok (some message))
    (codec : result.2.frameCodec = socket.frameCodec.withInner result.2.frameCodec.inner) :
    Reads target socket none result

/-- A round that only adds a fragment leaves the rest to the rounds behind it. -/
theorem Reads.behind {target : Target} {socket : WebSocket} {after : FramedRead}
    {incomplete : Option IncompleteMessage} {accepted : Option Accepted} {result : Reply × WebSocket}
    (silent : ∀ last, Silent target (socket.handled after incomplete) last → Silent target socket last)
    (reads : Reads target (socket.handled after incomplete) accepted result) : Reads target socket accepted result := by
  cases reads with
  | accepted rest canRead allowed delivers => exact .accepted (silent _ rest) canRead allowed delivers
  | nothing noMessage codec => exact .nothing noMessage codec

theorem acceptLoop_reads (target : Target) (fuel : Nat) {socket : WebSocket} (wellFormed : socket.WellFormed)
    (enough : socket.frameCodec.inner.script.length < fuel) :
    Reads target socket (acceptLoop target fuel socket) (asReply (readLoop target fuel socket)) := by
  induction fuel generalizing socket with
  | zero => exact absurd enough (Nat.not_lt_zero _)
  | succ fuel ih =>
    have arrived := readMessageFrame_arrived target socket
    rw [acceptLoop, readLoop, readRound]
    generalize readMessageFrame target socket = result at arrived ⊢
    cases arrived with
    | @frame frame after canRead came grown shorter =>
      cases receiveFrame_cases target frame (socket.withReader after) canRead wellFormed with
      | inl taken =>
        obtain ⟨allowed, stillWellFormed, pending, message, incomplete, delivers, run⟩ := taken
        rw [run] at stillWellFormed pending ⊢
        cases message with
        | none =>
          -- a fragment: nothing is sent, and the loop goes on
          have rest := ih (show (socket.handled after incomplete).WellFormed from stillWellFormed)
            (show after.script.length < fuel by omega)
          exact rest.behind fun last => .step canRead came grown allowed delivers.symm pending stillWellFormed
        | some message =>
          have taken := @Reads.accepted target socket socket frame after message incomplete (.refl socket) canRead
            allowed delivers
          rw [Lib.andThen_ok]
          show Reads target socket _ (asReply (Lib.andThen (Lib.andThen
            (autoSend (replyTo socket.state (some message)) (socket.delivered after incomplete (some message))) _) _))
          generalize autoSend (replyTo socket.state (some message)) (socket.delivered after incomplete (some message)) =
            sent at taken
          obtain ⟨outcome, after⟩ := sent
          cases outcome <;> exact taken
      | inr taken =>
        obtain ⟨_, refused⟩ := taken
        obtain ⟨error, incomplete, _, run, _⟩ := refused.outcome
        rw [run]
        exact .nothing (fun message returned => by cases returned) rfl
    | _ => exact .nothing (fun message returned => by cases returned) rfl

/-- What a read accepts, and how it goes on from there. -/
theorem read_reads (target : Target) {socket : WebSocket} (wellFormed : socket.WellFormed) :
    Reads target socket (accepts target socket) (asReply (read target socket)) := by
  unfold accepts read
  split
  · exact .nothing (fun message returned => by cases returned) rfl
  · split
    · exact .nothing (fun message returned => by cases returned) rfl
    · exact acceptLoop_reads target _ wellFormed (Nat.lt_succ_self _)

/-! ## The operations of the codec -/

/-- The operations of `flush`. -/
def flushUses (socket : WebSocket) : List Use :=
  if socket.role = .Server ∧ ¬ socket.state.canRead then [.close] else [.flush]

/-- The operations of `close`. -/
def closeUses (code : Option CloseFrame) (socket : WebSocket) : List Use :=
  if socket.state = .Active then [.send (outgoing (Frame.close code) socket), .flush] else flushUses socket

/-- The operations of `write`. -/
def writeUses (message : Message) (socket : WebSocket) : List Use :=
  if socket.state = .Active then
    match closeAsked (.write message), frameOf message with
    | some code, _ => closeUses code socket
    | none, some frame => [.send (outgoing frame socket)]
    | none, none => []
  else []

/-- The operations of a call, to be performed up to the first that does not succeed. -/
def uses (target : Target) (socket : WebSocket) : Op → List Use
  | .read =>
    match accepts target socket with
    | some accepted => replyUses accepted.reply accepted.socket
    | none => []
  | .write message => writeUses message socket
  | .flush => flushUses socket
  | .close code => closeUses code socket
  | .setConfig _ => []

theorem writeUses_of_frame {message : Message} {frame : Frame} {socket : WebSocket} (active : socket.state = .Active)
    (made : frameOf message = some frame) : writeUses message socket = [.send (outgoing frame socket)] := by
  have notClose : closeAsked (.write message) = none := by
    cases message with
    | Close code => cases made
    | _ => rfl
  rw [writeUses, if_pos active, notClose, made]

theorem writeUses_close {code : Option CloseFrame} {socket : WebSocket} (active : socket.state = .Active) :
    writeUses (.Close code) socket = [.send (outgoing (Frame.close code) socket), .flush] := by
  rw [writeUses, if_pos active]
  exact if_pos active

theorem flush_uses (socket : WebSocket) :
    (flush socket).2.frameCodec = (useAll (flushUses socket) socket.frameCodec).2 := by
  unfold flushUses
  by_cases closing : socket.role = .Server ∧ ¬ socket.state.canRead = true
  · rw [if_pos closing]
    exact flush_closes closing.1 (by simpa using closing.2)
  · rw [if_neg closing, flush, if_neg closing]
    exact (onCodec_flush_ran socket).codec

theorem close_uses (code : Option CloseFrame) (socket : WebSocket) :
    (close code socket).2.frameCodec = (useAll (closeUses code socket) socket.frameCodec).2 := by
  unfold closeUses
  by_cases active : socket.state = .Active
  · rw [if_pos active]
    exact (close_ran code active).codec
  · rw [if_neg active, close, if_neg active, Lib.andThen_ok]
    exact flush_uses socket

theorem write_uses (message : Message) (socket : WebSocket) :
    (write message socket).2.frameCodec = (useAll (writeUses message socket) socket.frameCodec).2 := by
  unfold writeUses write
  by_cases active : socket.state = .Active
  · rw [if_pos active, if_neg (by rw [active]; nofun), if_neg (by rw [active]; exact not_not_intro rfl)]
    cases message with
    | Close code => exact close_uses code socket
    | Text data | Binary data | Ping data | Pong data | Frame data => exact (writeFrame_ran _ socket).codec
  · rw [if_neg active]
    cases state : socket.state with
    | Active => exact absurd state active
    | _ => rfl

/-- A call performs its operations. -/
theorem perform_uses (target : Target) (op : Op) {socket : WebSocket} (wellFormed : socket.WellFormed) :
    Performs (uses target socket op) socket.frameCodec (perform target op socket).2.frameCodec := by
  cases op with
  | read =>
    have reads := read_reads target wellFormed
    show Performs (match accepts target socket with
      | some accepted => replyUses accepted.reply accepted.socket
      | none => []) socket.frameCodec (asReply (read target socket)).2.frameCodec
    generalize accepts target socket = accepted at reads ⊢
    generalize asReply (read target socket) = result at reads ⊢
    cases reads with
    | nothing noMessage codec =>
      rw [codec]
      exact .refl _ _
    | @accepted last frame after message incomplete silent canRead allowed delivers =>
      obtain ⟨inner, pending, rfl⟩ := silent.keeps
      have ran := autoSend_ran (replyTo socket.state (some message))
        ((socket.handled inner pending).delivered after incomplete (some message))
      rw [(reply_cases (autoSend_replied _ _)).1]
      exact @Performs.withInner _ socket.frameCodec _ after (performs_of_eq ran.codec)
  | write message => exact performs_of_eq (write_uses message socket)
  | flush => exact performs_of_eq (flush_uses socket)
  | close code => exact performs_of_eq (close_uses code socket)
  | setConfig setFunc => exact .refl _ _

end WebSocket

end MonoioTungstenite
