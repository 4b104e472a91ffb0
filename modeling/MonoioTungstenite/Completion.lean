import MonoioTungstenite.Linked

/-! # Bringing everything to its end

Nothing that has been written is ever stuck: wherever fair turns have led, flushes and reads bring every message that is
under way to the other end (`all_delivered`), and a closing that has begun to its end (`closing_completes`).  When all
bytes have been received and no frame is left in the buffers, everything has been returned (`returned_all`). -/

namespace MonoioTungstenite

open WebSocket Reassembly

/-! ## What is under way gets less -/

namespace Link

/-- How much there is to do about a message: a ping is answered. -/
def weight : Message → Nat
  | .Ping _ => 2
  | _ => 1

/-- How much an end has left to do about what is under way from it, and about its close message. -/
def share (link : Link) (role : Role) : Nat :=
  ((link.underWay role).map weight).sum + if link.closed role then 0 else 1

def load (link : Link) : Nat := link.share .Server + link.share .Client

theorem load_eq (link : Link) (role : Role) : link.load = link.share role + link.share role.other := by
  cases role with
  | Server => rfl
  | Client => exact Nat.add_comm _ _

@[simp] theorem weight_passedOn (closed : Bool) (message : Message) :
    weight (message.passedOn closed) = weight message := by
  unfold Message.passedOn
  split
  next => split <;> rfl
  next => rfl

/-- An answer is less than what it answers, or it closes the end. -/
theorem weight_answer (message : Message) :
    ((message.answer.map Message.onWire).toList.map weight).sum + (if message.isClose then 0 else 1) = weight message := by
  cases message <;> rfl

theorem take_load {link : Link} {role : Role} {message : Message} {later : List Message}
    (first : link.underWay role.other = message :: later) : (link.take role message later).load < link.load := by
  have some : 0 < weight message := by cases message <;> exact Nat.succ_pos _
  have answer := weight_answer (message.passedOn false)
  rw [weight_passedOn, Message.isClose_passedOn] at answer
  rw [load_eq _ role, load_eq link role]
  unfold share
  rw [take_underWay_self, take_underWay_other, take_closed_self, take_closed_other, first, replies]
  cases link.closed role with
  | true =>
    simp
    omega
  | false =>
    simp at answer ⊢
    omega

end Link

/-! ## The next message -/

/-- A reader that gets all of the bytes that have been sent hands out the next frame. -/
theorem FramedRead.next_arrived (width : PointerWidth) {reader : FramedRead} {behind later : List Frame} {frame : Frame}
    {missing : List UInt8} (between : Between reader behind (frame :: later))
    (script : reader.script = [.fill missing, .decode])
    (whole : reader.received ++ missing = encodeAll (behind ++ frame :: later))
    (welcomes : ∀ other ∈ frame :: later, reader.decoder.Welcomes width other) :
    ∃ after, next (.unlimited width) reader = (.ok (some frame.unmasked), after) ∧
      after.received = reader.received ++ missing := by
  let filled : FramedRead :=
    { reader with buffer := reader.buffer ++ missing, script := [.decode], received := reader.received ++ missing }
  have stillBetween : Between filled behind (frame :: later) := between.filled missing [.decode]
  have decoded := decode_between width stillBetween (whole ▸ List.prefix_refl _) welcomes
  have run : next (.unlimited width) reader = FramedRead.run (.unlimited width) [.decode] filled := by
    rw [next_eq_run _ between.goesOn, script]
    rfl
  rw [run, FramedRead.run]
  generalize filled.decoder.decode (.unlimited width) filled.buffer = result at decoded
  cases decoded with
  | waits nothing between config short => cases short whole
  | frame first between config =>
    cases first
    exact ⟨_, rfl, rfl⟩

/-- A read that gets all of the bytes that have been sent returns a message, if a frame is ahead. -/
theorem step_read_next {width : PointerWidth} {role : Role} {config : WebSocketConfig} {socket peer : WebSocket}
    {messages : List Message} {behind later : List Frame} {frame : Frame} {missing : List UInt8}
    (wellFormed : socket.WellFormed) (stands : Stands role config socket)
    (receives : Receives socket peer messages behind (frame :: later)) (sends : Sends width config peer)
    (peerRole : peer.role = role.other) (canRead : socket.state.canRead = true)
    (out : peer.frameCodec.writeBuf = [])
    (split : socket.frameCodec.inner.received ++ missing = peer.frameCodec.io.accepted) :
    ∃ message after, WebSocket.step (.unlimited width) socket (.reading .read [.fill missing, .decode]) =
        (.ok (some message), after) ∧ after.frameCodec.inner.received = peer.frameCodec.io.accepted := by
  have whole : socket.frameCodec.inner.received ++ missing = encodeAll (behind ++ frame :: later) := by
    rw [split, ← receives.queued, ← sends.wire, out, List.append_nil]
  have sendable := receives.sendable sends peerRole
  have welcomes := fun other found => stands.welcomes (sendable other found)
  have ready : Stands role config (install (.reading .read [.fill missing, .decode]) socket) :=
    ⟨stands.sameRole, stands.sameConfig, stands.whole, stands.decoder⟩
  have before : Between (install (.reading .read [.fill missing, .decode]) socket).frameCodec.inner behind
      (frame :: later) := receives.between.congr rfl rfl rfl rfl
  obtain ⟨arrived, came, received⟩ := FramedRead.next_arrived width before rfl whole welcomes
  have all := received.trans split
  have sent := sendable frame List.mem_cons_self
  obtain ⟨message, delivered, _⟩ := ready.delivers sent
  have calm := (Call.calm_of_nil rfl rfl rfl : (Call.reading .read [.fill missing, .decode]).Calm).installed socket
  have nothing := ready.nothing_pending
  have stepped := step_stepped (.unlimited width) wellFormed (.reading .read [.fill missing, .decode])
  have running : (install (.reading .read [.fill missing, .decode]) socket).state.canRead = true := canRead
  rw [show (Call.reading .read [.fill missing, .decode]).op = .read from rfl] at stepped
  generalize WebSocket.step (.unlimited width) socket (.reading .read [.fill missing, .decode]) = result at stepped ⊢
  generalize install (.reading .read [.fill missing, .decode]) socket = socket at *
  cases stepped with
  | terminated state =>
    rw [state] at running
    cases running
  | closing state role closed =>
    rw [closed] at running
    cases running
  | read state mayRead silent lastWellFormed rounded =>
    -- the frame delivers a message, so the first round is the last
    cases silent with
    | step mayRead next grown allowed delivers pending wellFormed rest =>
      rw [came] at next
      cases next
      rw [delivered] at delivers
      cases delivers
    | refl =>
      have inner := rounded.inner
      rw [came] at inner
      cases rounded with
      | accepted mayRead next grown shorter allowed delivers pending wellFormed =>
        rw [came] at next
        cases next
        rw [delivered] at delivers
        subst delivers
        rw [reply_calm (show (socket.delivered arrived _ (some message)).frameCodec.io.Calm from calm)] at inner ⊢
        refine ⟨message, _, rfl, ?_⟩
        rw [inner]
        exact all
      | rejected mayRead next grown notAllowed refused =>
        rw [came] at next
        cases next
        rw [nothing] at notAllowed
        have allowed := sent.allowed (socket.rules (.unlimited width)) (ready.sameRole.trans role.other_other.symm)
          (congrArg WebSocketConfig.maxMessageSize ready.sameConfig)
        exact absurd allowed notAllowed
      | closed closed next =>
        rw [closed] at running
        cases running
      | waits next | panics next | failed next | eof next | refused _ next =>
        rw [came] at next
        cases next

namespace Network

variable {width : Role → PointerWidth} {configs : Role → WebSocketConfig} {network : Network} {link : Link}

/-- The turns that only bring on what is under way. -/
def Brings (turn : Role × Call) : Prop := turn.2.op = .read ∨ turn.2.op = .flush

theorem step_self (role : Role) (call : Call) : (step width network (role, call)).2 role =
    (WebSocket.step (.unlimited (width role)) (network role) call).2 := Function.update_self ..

theorem step_other (role : Role) (call : Call) : (step width network (role, call)).2 role.other = network role.other :=
  Function.update_of_ne role.other_ne ..

/-- A flush is always fair, and leaves the link as it is. -/
theorem flush_brings (roomy : ∀ role, Roomy (configs role)) (linked : Linked width configs network link) (role : Role) :
    Fair width network (role, .reading .flush []) ∧
      Link.Turn ((role, .reading .flush []), (step width network (role, .reading .flush [])).1) link link ∧
      Linked width configs (step width network (role, .reading .flush [])).2 link := by
  obtain ⟨past, concord⟩ := linked.1
  have kept := (@step_kept (.unlimited (width role)) _ (concord role).wellFormed (width role.other) (configs role.other)
    (.reading .flush []) trivial nofun).1
  have fair : Fair width network (role, .reading .flush []) := by
    have calm : (Call.reading .flush []).Calm := Call.calm_of_nil rfl rfl rfl
    refine .of_bytes trivial calm ?_ rfl ?_
    · exact (step_calmly (.unlimited (width role)) calm nofun (fun _ => nofun)).returns
    · obtain ⟨_, _, receives⟩ := (concord role).receives
      rw [step_self, kept.inner]
      exact receives.part
  obtain ⟨next, moved, goesOn⟩ := step_refines roomy network link _ linked fair
  obtain rfl : next = link := Link.Moves.flushed moved
  exact ⟨fair, moved, goesOn⟩

/-- An end that has something in its write buffer is active, and a flush empties the buffer. -/
theorem flush_empties (linked : Linked width configs network link) {role : Role}
    (waiting : (network role).frameCodec.writeBuf ≠ []) :
    ((step width network (role, .reading .flush [])).2 role).frameCodec.writeBuf = [] := by
  obtain ⟨past, concord⟩ := linked.1
  have active : (network role).state = .Active := by
    by_contra inactive
    exact waiting ((concord role).sends.out inactive)
  have calm : (Call.reading .flush []).Calm := Call.calm_of_nil rfl rfl rfl
  have canRead : (install (.reading .flush []) (network role)).state.canRead = true := by
    rw [show (install (.reading .flush []) (network role)).state = .Active from active]
    rfl
  rw [step_self]
  show (flush (install (.reading .flush []) (network role))).2.frameCodec.writeBuf = []
  rw [flush_of_canRead canRead]
  exact (FrameCodec.flush_calm (calm.installed (network role))).2

/-- The next message is taken by a read, if everything that has been queued is out. -/
theorem read_turn (roomy : ∀ role, Roomy (configs role)) (linked : Linked width configs network link) {role : Role}
    (out : (network role.other).frameCodec.writeBuf = []) {message : Message} {later : List Message}
    (first : link.underWay role.other = message :: later) :
    ∃ call, call.op = .read ∧ Fair width network (role, call) ∧
      Link.Turn ((role, call), (step width network (role, call)).1) link (link.take role message later) ∧
      Linked width configs (step width network (role, call)).2 (link.take role message later) := by
  obtain ⟨past, concord⟩ := linked.1
  obtain ⟨_, behind, ahead, queued, between, carried, sees⟩ := linked.2 role
  obtain ⟨_, _, received⟩ := (concord role).receives
  obtain ⟨missing, split⟩ := received.part
  have canRead : (network role).state.canRead = true := by
    by_contra closing
    have isOver := over_of_closing concord linked.2 (Bool.eq_false_iff.mpr closing)
    rw [isOver.nothing] at first
    cases first
  rw [first] at carried
  obtain ⟨frame, rest, rfl, carries, _⟩ := List.map_eq_cons_iff.mp carried
  have receives : Receives (network role) (network role.other) (behind.filterMap Frame.content) behind (frame :: rest) :=
    ⟨queued, between, received.part, rfl, fun _ => sees⟩
  have sends := (concord role.other).sends
  rw [Role.other_other] at sends
  obtain ⟨returned, after, run, all⟩ := step_read_next (concord role).wellFormed (concord role).stands receives sends
    (concord role.other).stands.sameRole canRead out split
  refine ⟨.reading .read [.fill missing, .decode], rfl, ?_⟩
  have fair : Fair width network (role, .reading .read [.fill missing, .decode]) := by
    refine .of_bytes trivial (Call.calm_of_nil rfl rfl rfl) ?_ rfl ?_
    · simp only [step, run]
      intro same
      cases same
    · simp only [step, run, Function.update_self]
      rw [all]
  obtain ⟨next, moved, goesOn⟩ := step_refines roomy network link _ linked fair
  have moves : link.Moves role .read (.ok (some returned)) next := by
    rw [← show (step width network (role, .reading .read [.fill missing, .decode])).1 = .ok (some returned) from
      congrArg Prod.fst run]
    exact moved
  obtain rfl := moves.took first
  exact ⟨fair, moved, goesOn⟩

/-- Turns that bring the ends from one network, and its link, to others. -/
structure Brought (width : Role → PointerWidth) (configs : Role → WebSocketConfig) (network : Network) (link : Link)
    (turns : List (Role × Call)) (after : Link) : Prop where
  brings : ∀ turn ∈ turns, Brings turn
  fair : Lib.Meets (step width) (Fair width) network turns
  path : Lib.Path Link.Turn link (Lib.trace (step width) network turns) after
  linked : Linked width configs (Lib.final (step width) network turns) after

theorem brought_nil (linked : Linked width configs network link) : Brought width configs network link [] link :=
  ⟨fun _ nothing => absurd nothing List.not_mem_nil, trivial, .refl link, linked⟩

theorem Brought.cons {turn : Role × Call} {turns : List (Role × Call)} {next after : Link}
    (brings : Brings turn) (fair : Fair width network turn)
    (moved : Link.Turn (turn, (step width network turn).1) link next)
    (brought : Brought width configs (step width network turn).2 next turns after) :
    Brought width configs network link (turn :: turns) after where
  brings := List.forall_mem_cons.mpr ⟨brings, brought.brings⟩
  fair := ⟨fair, brought.fair⟩
  path := .step moved brought.path
  linked := brought.linked

theorem Brought.append {turns more : List (Role × Call)} {between after : Link}
    (brought : Brought width configs network link turns between)
    (further : Brought width configs (Lib.final (step width) network turns) between more after) :
    Brought width configs network link (turns ++ more) after where
  brings := List.forall_mem_append.mpr ⟨brought.brings, further.brings⟩
  fair := Lib.meets_append.mpr ⟨brought.fair, further.fair⟩
  path := by
    rw [Lib.trace_append]
    exact brought.path.append further.path
  linked := by
    rw [Lib.final_append]
    exact further.linked

/-- The next message is taken, after a flush where it is needed. -/
theorem brought_next (roomy : ∀ role, Roomy (configs role)) (linked : Linked width configs network link) {role : Role}
    {message : Message} {later : List Message} (first : link.underWay role.other = message :: later) :
    ∃ turns, Brought width configs network link turns (link.take role message later) := by
  have out : ∃ turns, Brought width configs network link turns link ∧
      (Lib.final (step width) network turns role.other).frameCodec.writeBuf = [] := by
    by_cases waiting : (network role.other).frameCodec.writeBuf = []
    · exact ⟨[], brought_nil linked, waiting⟩
    · obtain ⟨fair, moved, goesOn⟩ := flush_brings roomy linked role.other
      exact ⟨[_], .cons (.inr rfl) fair moved (brought_nil goesOn), flush_empties linked waiting⟩
  obtain ⟨turns, brought, empty⟩ := out
  obtain ⟨call, reads, fair, moved, goesOn⟩ := read_turn roomy brought.linked empty first
  exact ⟨turns ++ [(role, call)], brought.append (.cons (.inl reads) fair moved (brought_nil goesOn))⟩

/-- Nothing is under way in the end: what there is to do gets less with every message that is taken. -/
theorem brought_all (roomy : ∀ role, Roomy (configs role)) (linked : Linked width configs network link) :
    ∃ turns after, Brought width configs network link turns after ∧ ∀ role, after.underWay role = [] := by
  induction load : link.load using Nat.strong_induction_on generalizing network link with
  | _ load ih =>
    by_cases idle : ∀ role, link.underWay role = []
    · exact ⟨[], link, brought_nil linked, idle⟩
    · obtain ⟨sender, busy⟩ := not_forall.mp idle
      obtain ⟨message, later, first⟩ := List.exists_cons_of_ne_nil busy
      rw [← Role.other_other sender] at first
      have less := Link.take_load first
      obtain ⟨turns, brought⟩ := brought_next roomy linked first
      obtain ⟨more, after, further, nothing⟩ := ih _ (load ▸ less) brought.linked rfl
      exact ⟨turns ++ more, after, brought.append further, nothing⟩

/-- Reads and flushes write nothing. -/
theorem written_brings {turns : List (Role × Call)} (brings : ∀ turn ∈ turns, Brings turn) (role : Role) :
    written role (Lib.trace (step width) network turns) = [] := by
  apply List.filterMap_eq_nil_iff.mpr
  rintro ⟨turn, reply⟩ found
  have listed : turn ∈ (Lib.trace (step width) network turns).map Prod.fst := List.mem_map_of_mem found
  rw [Lib.trace_inputs] at listed
  dsimp only
  split
  next =>
    rcases brings turn listed with reads | flushes
    · rw [reads]
      rfl
    · rw [flushes]
      rfl
  next => rfl

/-! ## Closing -/

/-- A server that has taken everything shuts its connection down. -/
theorem shutDown_brings (roomy : ∀ role, Roomy (configs role)) (linked : Linked width configs network link)
    (closing : (network .Server).state.canRead = false) :
    Brought width configs network link [(.Server, .reading .flush [])] link ∧
      (Lib.final (step width) network [(.Server, .reading .flush [])] .Server).state = .Terminated := by
  obtain ⟨past, concord⟩ := linked.1
  obtain ⟨fair, moved, goesOn⟩ := flush_brings roomy linked .Server
  refine ⟨.cons (.inr rfl) fair moved (brought_nil goesOn), ?_⟩
  have server : (install (.reading .flush []) (network .Server)).role = .Server := (concord .Server).stands.sameRole
  have cannot : ¬ (install (.reading .flush []) (network .Server)).state.canRead = true :=
    Bool.eq_false_iff.mp closing
  show ((step width network (.Server, .reading .flush [])).2 .Server).state = .Terminated
  rw [step_self]
  show (flush (install (.reading .flush []) (network .Server))).2.state = .Terminated
  rw [flush, if_pos ⟨server, cannot⟩]
  exact Lib.andThen_keeps WebSocket.state fun _ _ => rfl

/-- In front of nothing the reader has received everything, and the decoder finds nothing in its buffer. -/
theorem drained_of_nothing {width : PointerWidth} {reader : FramedRead} {behind : List Frame}
    (between : Between reader behind []) (part : reader.received <+: encodeAll behind) :
    reader.received = encodeAll behind ∧ reader.Drained width := by
  obtain ⟨idle, empty⟩ := between.emptied part
  constructor
  · cases between with
    | fresh _ _ received => rw [received, empty, List.append_nil]
  · intro frame
    rw [empty, FrameDecoder.decode_cut idle (by simp [FrameHeader.IsCut])]
    split
    next =>
      intro same
      cases same
    next =>
      intro same
      cases same

/-- At the end of the stream a client is terminated. -/
theorem step_read_eof (target : Target) {socket : WebSocket} (wellFormed : socket.WellFormed)
    (client : socket.role = .Client) (goesOn : socket.frameCodec.inner.errored = false)
    (empty : socket.frameCodec.inner.buffer = []) :
    (WebSocket.step target socket (.reading .read [.eof])).1 ≠ .pending ∧
      (WebSocket.step target socket (.reading .read [.eof])).2.state = .Terminated ∧
      ∃ script, (WebSocket.step target socket (.reading .read [.eof])).2.frameCodec.inner =
        { socket.frameCodec.inner with script } := by
  have stepped := step_stepped target wellFormed (.reading .read [.eof])
  have came : FramedRead.next target (install (.reading .read [.eof]) socket).frameCodec.inner =
      (.ok none, { socket.frameCodec.inner with script := [] }) := by
    have still : (install (.reading .read [.eof]) socket).frameCodec.inner.errored = false := goesOn
    have nothing : (install (.reading .read [.eof]) socket).frameCodec.inner.buffer.isEmpty = true :=
      List.isEmpty_iff.mpr empty
    rw [FramedRead.next_eq_run target still]
    exact if_pos nothing
  rw [show (Call.reading .read [.eof]).op = .read from rfl] at stepped
  generalize WebSocket.step target socket (.reading .read [.eof]) = result at stepped ⊢
  cases stepped with
  | terminated state => exact ⟨nofun, state, _, rfl⟩
  | closing state role closed =>
    rw [show (install (.reading .read [.eof]) socket).role = .Client from client] at role
    cases role
  | read state mayRead silent lastWellFormed rounded =>
    cases silent with
    | step mayRead next =>
      rw [came] at next
      cases next
    | refl =>
      cases rounded with
      | eof next same =>
        rw [came] at next
        cases next
        exact ⟨nofun, rfl, _, rfl⟩
      | waits next | panics next | failed next | refused _ next | closed _ next | rejected _ next | accepted _ next =>
        rw [came] at next
        cases next

/-- A client that has taken everything sees the end of the stream when the server has shut it down. -/
theorem hangUp_brings (roomy : ∀ role, Roomy (configs role)) (linked : Linked width configs network link)
    (shutDown : (network .Server).state = .Terminated) (nothing : link.underWay .Server = []) :
    Brought width configs network link [(.Client, .reading .read [.eof])] link ∧
      (Lib.final (step width) network [(.Client, .reading .read [.eof])] .Client).state = .Terminated := by
  obtain ⟨past, concord⟩ := linked.1
  obtain ⟨_, behind, ahead, queued, between, carried, _⟩ := linked.2 .Client
  obtain ⟨_, _, received⟩ := (concord .Client).receives
  have inactive : (network .Server).state ≠ .Active := by
    rw [shutDown]
    nofun
  obtain rfl : ahead = [] := List.map_eq_nil_iff.mp (carried.trans (congrArg (List.map some) nothing))
  have accepted : (network .Server).frameCodec.io.accepted = encodeAll behind := by
    rw [(concord .Server).sends.all_out inactive, show (network .Server).frameCodec.queued = behind ++ [] from queued,
      List.append_nil]
  obtain ⟨_, empty⟩ := between.emptied (accepted ▸ received.part)
  obtain ⟨returns, terminated, script, inner⟩ := step_read_eof (.unlimited (width .Client)) (concord .Client).wellFormed
    (concord .Client).stands.sameRole between.goesOn empty
  have all : (network .Client).frameCodec.inner.received = encodeAll behind ∧
      (network .Client).frameCodec.inner.Drained (width .Client) := by
    refine drained_of_nothing between ?_
    rw [← accepted]
    exact received.part
  have fair : Fair width network (.Client, .reading .read [.eof]) := by
    refine ⟨trivial, Call.calm_of_nil rfl rfl rfl, returns, by simp [FromWire, Call.reading],
      by simp [Unfailing, Call.reading], ?_, fun _ => ⟨shutDown, ?_, ?_⟩⟩
    · rw [step_self, inner]
      exact received.part
    · rw [step_self, inner]
      exact all.1.trans accepted.symm
    · rw [step_self, inner]
      exact all.2
  obtain ⟨next, moved, goesOn⟩ := step_refines roomy network link _ linked fair
  obtain rfl : next = link := Link.Moves.idle moved nothing
  refine ⟨.cons (.inl rfl) fair moved (brought_nil goesOn), ?_⟩
  show ((step width network (.Client, .reading .read [.eof])).2 .Client).state = .Terminated
  rw [step_self]
  exact terminated

/-- Everything that the other end has queued has been received, and the decoder has no frame left. -/
structure Settled (width : Role → PointerWidth) (network : Network) (role : Role) : Prop where
  out : (network role.other).frameCodec.writeBuf = []
  received : (network role).frameCodec.inner.received = (network role.other).frameCodec.io.accepted
  drained : (network role).frameCodec.inner.Drained (width role)

theorem Settled.nothing (linked : Linked width configs network link) {role : Role} (settled : Settled width network role) :
    link.underWay role.other = [] := by
  obtain ⟨past, concord⟩ := linked.1
  obtain ⟨_, behind, ahead, queued, between, carried, sees⟩ := linked.2 role
  obtain ⟨_, _, received⟩ := (concord role).receives
  have sends := (concord role.other).sends
  rw [Role.other_other] at sends
  have receives : Receives (network role) (network role.other) (behind.filterMap Frame.content) behind ahead :=
    ⟨queued, between, received.part, rfl, fun _ => sees⟩
  have whole : (network role).frameCodec.inner.received = encodeAll (behind ++ ahead) := by
    rw [settled.received, ← queued, ← sends.wire, settled.out, List.append_nil]
  rw [between.nothing_ahead whole settled.drained fun frame found => (concord role).stands.welcomes
    (receives.sendable sends (concord role.other).stands.sameRole frame found)] at carried
  exact List.map_eq_nil_iff.mp carried.symm

/-! ## Runs -/

/-- When nothing is under way any more, everything has been returned. -/
theorem returned_of_brought {past : List ((Role × Call) × Reply)} {more : List (Role × Call)} {after : Link}
    (path : Lib.Path Link.Turn .new past link) (brought : Brought width configs network link more after)
    (nothing : ∀ role, after.underWay role = []) (role : Role) :
    returned role (past ++ Lib.trace (step width) network more) = written role.other past := by
  have conserves := (Link.path_kept (path.append brought.path)).conserves role.other
  rw [Role.other_other, nothing, List.filter_nil, List.append_nil] at conserves
  have writes : written role.other (past ++ Lib.trace (step width) network more) = written role.other past := by
    have quiet : written role.other (Lib.trace (step width) network more) = [] :=
      written_brings brought.brings role.other
    rw [written, List.filterMap_append]
    show written role.other _ ++ written role.other _ = _
    rw [quiet, List.append_nil]
  rw [← conserves, writes]

/-- Reads and flushes bring everything to its end: nothing is left under way, and if an end has closed, both terminate. -/
theorem Linked.completes (roomy : ∀ role, Roomy (configs role)) {past : List ((Role × Call) × Reply)}
    (path : Lib.Path Link.Turn .new past link) (linked : Linked width configs network link) :
    ∃ more, (∀ turn ∈ more, Brings turn) ∧ Lib.Meets (step width) (Fair width) network more ∧
      (∀ role, returned role (past ++ Lib.trace (step width) network more) = written role.other past) ∧
      ∀ role, (network role).state ≠ .Active →
        ∀ other, (Lib.final (step width) network more other).state = .Terminated := by
  obtain ⟨more, after, brought, nothing⟩ := brought_all roomy linked
  by_cases active : ∀ role, (network role).state = .Active
  · exact ⟨more, brought.brings, brought.fair, returned_of_brought path brought nothing,
      fun role inactive => absurd (active role) inactive⟩
  obtain ⟨role, inactive⟩ := not_forall.mp active
  -- one end has closed, so both have
  have closed : after.closed role = true := Link.path_stays brought.path ((linked.2 role).isClosed inactive)
  have otherClosed : after.closed role.other = true := by
    rcases (Link.path_kept (path.append brought.path)).announced role closed with other | ⟨message, found, _⟩
    · exact other
    · rw [nothing] at found
      cases found
  have bothClosed : after.closed .Client = true := by
    cases role with
    | Client => exact closed
    | Server => exact otherClosed
  -- the server shuts down, and the client hangs up
  obtain ⟨⟨_, concord⟩, inLink⟩ := brought.linked
  have closing := canRead_of_taken concord inLink (show after.closed Role.Server.other = true from bothClosed)
    (nothing .Client)
  obtain ⟨shutDown, serverDown⟩ := shutDown_brings roomy brought.linked closing
  have further := brought.append shutDown
  rw [← Lib.final_append] at serverDown
  obtain ⟨hangUp, clientDown⟩ := hangUp_brings roomy further.linked serverDown (nothing .Server)
  have whole := further.append hangUp
  refine ⟨_, whole.brings, whole.fair, returned_of_brought path whole nothing, fun _ _ role => ?_⟩
  rw [Lib.final_append]
  cases role with
  | Client => exact clientDown
  | Server => exact (congrArg WebSocket.state (step_other .Client _)).trans serverDown

section Runs

variable (width : Role → PointerWidth) (configs : Role → Option WebSocketConfig)

/-- **What has arrived has been returned.**  Wherever fair turns have led, an end that has received everything, and has no
frame left in its buffers, has returned all of the texts, data and pings that have been written at the other one; and if
the other one is not active any more, then neither is this one. -/
theorem returned_all (roomy : ∀ role, Roomy ((configs role).getD .default)) {turns : List (Role × Call)}
    (fair : Lib.Meets (step width) (Fair width) (joined configs) turns) {role : Role}
    (settled : Settled width (Lib.final (step width) (joined configs) turns) role) :
    returned role (Lib.trace (step width) (joined configs) turns) =
        written role.other (Lib.trace (step width) (joined configs) turns) ∧
      ((Lib.final (step width) (joined configs) turns role.other).state ≠ .Active →
        (Lib.final (step width) (joined configs) turns role).state.canRead = false) := by
  obtain ⟨link, path, linked⟩ := (step_refines roomy).path (linked_joined width configs) fair
  have nothing := settled.nothing linked
  have conserves := (Link.path_kept path).conserves role.other
  rw [Role.other_other, nothing, List.filter_nil, List.append_nil] at conserves
  obtain ⟨⟨_, concord⟩, inLink⟩ := linked
  exact ⟨conserves.symm, fun inactive =>
    canRead_of_taken concord inLink ((inLink role.other).isClosed inactive) nothing⟩

theorem returned_all_hello :
    returned .Server (Lib.trace (step fun _ => .w64) (joined fun _ => none) hello) =
        written .Client (Lib.trace (step fun _ => .w64) (joined fun _ => none) hello) ∧
      ((Lib.final (step fun _ => .w64) (joined fun _ => none) hello .Client).state ≠ .Active →
        (Lib.final (step fun _ => .w64) (joined fun _ => none) hello .Server).state.canRead = false) := by
  have settled : Settled (fun _ => .w64) (Lib.final (step fun _ => .w64) (joined fun _ => none) hello) .Server := by
    refine ⟨by decide, by decide, ?_⟩
    intro frame some
    cases some
  exact returned_all _ _ (fun _ => by decide) hello_fair settled

/-- **Nothing that has been written is ever stuck.**  Wherever fair turns have led, there are reads and flushes, fair
too, after which each end has returned all of the texts, data and pings that had been written at the other one. -/
theorem all_delivered (roomy : ∀ role, Roomy ((configs role).getD .default)) {turns : List (Role × Call)}
    (fair : Lib.Meets (step width) (Fair width) (joined configs) turns) :
    ∃ more, (∀ turn ∈ more, Brings turn) ∧ Lib.Meets (step width) (Fair width) (joined configs) (turns ++ more) ∧
      ∀ role, returned role (Lib.trace (step width) (joined configs) (turns ++ more)) =
        written role.other (Lib.trace (step width) (joined configs) turns) := by
  obtain ⟨link, path, linked⟩ := (step_refines roomy).path (linked_joined width configs) fair
  obtain ⟨more, after, brought, nothing⟩ := brought_all roomy linked
  refine ⟨more, brought.brings, Lib.meets_append.mpr ⟨fair, brought.fair⟩, ?_⟩
  rw [Lib.trace_append]
  exact returned_of_brought path brought nothing

theorem all_delivered_hello :
    ∃ more, (∀ turn ∈ more, Brings turn) ∧
      Lib.Meets (step fun _ => .w64) (Fair fun _ => .w64) (joined fun _ => none) (hello ++ more) ∧
      ∀ role, returned role (Lib.trace (step fun _ => .w64) (joined fun _ => none) (hello ++ more)) =
        written role.other (Lib.trace (step fun _ => .w64) (joined fun _ => none) hello) :=
  all_delivered _ _ (fun _ => by decide) hello_fair

/-- **A closing that has begun can be completed.**  Wherever fair turns have led, if an end is not active any more, there
are reads and flushes, fair too, after which both ends are terminated, and each has returned all of the texts, data and
pings that had been written at the other one. -/
theorem closing_completes (roomy : ∀ role, Roomy ((configs role).getD .default)) {turns : List (Role × Call)}
    (fair : Lib.Meets (step width) (Fair width) (joined configs) turns) {role : Role}
    (inactive : (Lib.final (step width) (joined configs) turns role).state ≠ .Active) :
    ∃ more, (∀ turn ∈ more, Brings turn) ∧ Lib.Meets (step width) (Fair width) (joined configs) (turns ++ more) ∧
      (∀ role, returned role (Lib.trace (step width) (joined configs) (turns ++ more)) =
        written role.other (Lib.trace (step width) (joined configs) turns)) ∧
      ∀ role, (Lib.final (step width) (joined configs) (turns ++ more) role).state = .Terminated := by
  obtain ⟨link, path, linked⟩ := (step_refines roomy).path (linked_joined width configs) fair
  obtain ⟨more, brings, further, returns, terminates⟩ := linked.completes roomy path
  refine ⟨more, brings, Lib.meets_append.mpr ⟨fair, further⟩, ?_⟩
  rw [Lib.trace_append, Lib.final_append]
  exact ⟨returns, terminates role inactive⟩

/-- A server closes the connection. -/
def goodbye : List (Role × Call) := [(.Server, .reading (.close none) [])]

theorem closing_completes_goodbye :
    ∃ more, (∀ turn ∈ more, Brings turn) ∧
      Lib.Meets (step fun _ => .w64) (Fair fun _ => .w64) (joined fun _ => none) (goodbye ++ more) ∧
      (∀ role, returned role (Lib.trace (step fun _ => .w64) (joined fun _ => none) (goodbye ++ more)) =
        written role.other (Lib.trace (step fun _ => .w64) (joined fun _ => none) goodbye)) ∧
      ∀ role, (Lib.final (step fun _ => .w64) (joined fun _ => none) (goodbye ++ more) role).state = .Terminated := by
  have fair : Lib.Meets (step fun _ => .w64) (Fair fun _ => .w64) (joined fun _ => none) goodbye := by
    have asked : SuitsClose none := by simp [SuitsClose]
    exact ⟨.of_bytes asked (Call.calm_of_nil rfl rfl rfl) (by decide) rfl (by decide), trivial⟩
  have inactive : (Lib.final (step fun _ => .w64) (joined fun _ => none) goodbye .Server).state ≠ .Active := by decide
  exact closing_completes _ _ (fun _ => by decide) fair inactive

end Runs

end Network

end MonoioTungstenite
