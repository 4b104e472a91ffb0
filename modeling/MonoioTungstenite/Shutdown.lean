import MonoioTungstenite.Outgoing

/-! # Shutting the stream down

A server that does not read any more shuts its stream down when it is asked to flush or to close, and may be asked again
and again.  `shutDown_last`: nothing is written or flushed after the first time, whatever the socket is asked and whatever
arrives, and nothing is left that could be.  A client never shuts its stream down. -/

namespace MonoioTungstenite

open WebSocket

namespace FrameCodec

/-! ## The codec -/

/-- The log has grown, and not by a shutdown. -/
def GoesOn (before after : FrameCodec) : Prop :=
  ∃ more, after.io.log = before.io.log ++ more ∧ .shutDown ∉ more

theorem GoesOn.refl (codec : FrameCodec) : GoesOn codec codec := ⟨[], (List.append_nil _).symm, List.not_mem_nil⟩

theorem GoesOn.trans {first second third : FrameCodec} (left : GoesOn first second) (right : GoesOn second third) :
    GoesOn first third := by
  obtain ⟨more, grown, without⟩ := left
  obtain ⟨further, grownOn, withoutToo⟩ := right
  refine ⟨more ++ further, by rw [grownOn, grown, List.append_assoc], fun found => ?_⟩
  rcases List.mem_append.mp found with found | found
  · exact without found
  · exact withoutToo found

theorem GoesOn.without {before after : FrameCodec} (goesOn : GoesOn before after) (without : .shutDown ∉ before.io.log) :
    .shutDown ∉ after.io.log := by
  obtain ⟨more, grown, quiet⟩ := goesOn
  rw [grown]
  exact fun found => (List.mem_append.mp found).elim without quiet

theorem Marked.goesOn {event : StreamEvent} {codec : FrameCodec} {result : Result Unit × FrameCodec}
    (marked : Marked event codec result) (other : event ≠ .shutDown) : GoesOn codec result.2 := by
  cases marked with
  | done log => exact ⟨[event], log, fun found => other (List.mem_singleton.mp found).symm⟩
  | failed log | stalled log => exact ⟨[], log.trans (List.append_nil _).symm, List.not_mem_nil⟩

theorem Marked.writeBuf {event : StreamEvent} {codec : FrameCodec} {result : Result Unit × FrameCodec}
    (marked : Marked event codec result) : result.2.writeBuf = codec.writeBuf := by
  cases marked with
  | done | failed | stalled => rfl

theorem flush_goesOn (codec : FrameCodec) : GoesOn codec codec.flush.2 := by
  have flushed := codec.flush_flushed
  generalize codec.flush = result at flushed ⊢
  cases flushed with
  | empty => exact .refl codec
  | dropped | tore => exact ⟨[_], rfl, by simp⟩
  | wrote =>
    have wrote : GoesOn codec { codec.wrote (.wrote codec.writeBuf) with writeBuf := [] } := ⟨[_], rfl, by simp⟩
    exact wrote.trans ((onIo_flush_marked _).goesOn (by simp))

/-- A flush that succeeds leaves nothing in the buffer. -/
theorem writeBuf_of_flush {codec : FrameCodec} (flushed : codec.flush.1 = .ok ()) : codec.flush.2.writeBuf = [] := by
  have ends := codec.flush_flushed
  generalize codec.flush = result at ends flushed ⊢
  cases ends with
  | empty nothing => exact nothing
  | dropped | tore => cases flushed
  | wrote => exact (onIo_flush_marked _).writeBuf

theorem send_goesOn (frame : Frame) (codec : FrameCodec) : GoesOn codec (codec.send frame).2 := by
  have sent := codec.send_sent frame
  generalize codec.send frame = result at sent ⊢
  cases sent with
  | appended => exact .refl codec
  | flushed | stopped => exact codec.flush_goesOn

theorem useAll_goesOn {uses : List Use} (others : .close ∉ uses) (codec : FrameCodec) :
    GoesOn codec (useAll uses codec).2 := by
  induction uses generalizing codec with
  | nil => exact .refl codec
  | cons use uses inductionHypothesis =>
    rw [List.mem_cons, not_or] at others
    have first : GoesOn codec (codec.use use).2 := by
      cases use with
      | send frame => exact codec.send_goesOn frame
      | flush => exact codec.flush_goesOn
      | close => exact absurd rfl others.1
    exact Lib.andThen_rule (fun result => GoesOn codec result.2) (fun _ _ => first)
      fun _ _ => first.trans (inductionHypothesis others.2 _)

/-- Closing the codec shuts the stream down last, with nothing left in the buffer, or does not get that far. -/
theorem close_shuts (codec : FrameCodec) : GoesOn codec codec.close.2 ∨
    ∃ between, GoesOn codec between ∧ codec.close.2.io.log = between.io.log ++ [.shutDown] ∧
      codec.close.2.writeBuf = [] := by
  have flushed := codec.flush_goesOn
  unfold close
  rcases Lib.andThen_cases codec.flush fun _ codec => onIo Stream.shutdown codec with ⟨_, returned, run⟩ | ⟨_, _, run⟩
  · have marked := onIo_shutdown_marked codec.flush.2
    have empty := marked.writeBuf.trans (writeBuf_of_flush returned)
    rw [run]
    generalize onIo Stream.shutdown codec.flush.2 = result at marked empty
    cases marked with
    | done log => exact .inr ⟨codec.flush.2, flushed, log, empty⟩
    | failed log | stalled log => exact .inl (flushed.trans ⟨[], log.trans (List.append_nil _).symm, List.not_mem_nil⟩)
  · rw [run]
    exact .inl flushed

theorem close_again {codec : FrameCodec} (empty : codec.writeBuf = []) :
    Marked .shutDown codec codec.close := by
  rw [close, flush, empty]
  exact onIo_shutdown_marked codec

end FrameCodec

namespace WebSocket

open FrameCodec (Use useAll GoesOn)

/-! ## The socket -/

theorem Drives.shuts {socket : WebSocket} {op : Op} {state : WebSocketState} {uses : List Use}
    (drives : Drives socket op state uses) :
    .close ∉ uses ∨ (uses = [.close] ∧ socket.role = .Server ∧ state = .Terminated) := by
  cases drives with
  | shutsDown flushing role inactive => exact .inr ⟨rfl, role, rfl⟩
  | _ => exact .inl (by simp)

theorem Drives.inactive {socket : WebSocket} {op : Op} {state : WebSocketState} {uses : List Use}
    (drives : Drives socket op state uses) (inactive : socket.state ≠ .Active) :
    uses = [] ∨ uses = [.flush] ∨ uses = [.close] := by
  cases drives with
  | configures | refuses | reads => exact .inl rfl
  | flushes => exact .inr (.inl rfl)
  | shutsDown => exact .inr (.inr rfl)
  | writes active | closes active | answersPing data active | answersClose code active => exact absurd active inactive

/-- A server that is terminated and has nothing left to write. -/
structure ShutOff (socket : WebSocket) : Prop where
  role : socket.role = .Server
  state : socket.state = .Terminated
  empty : socket.frameCodec.writeBuf = []

/-- The log begins without a shutdown, and goes on with nothing else; if there is one, the socket is shut off. -/
def Sealed (socket : WebSocket) : Prop :=
  ∃ earlier marks, socket.frameCodec.io.log = earlier ++ marks ∧ .shutDown ∉ earlier ∧
    (∀ event ∈ marks, event = .shutDown) ∧ (marks ≠ [] → ShutOff socket)

/-- On a socket that has been shut off, nothing but a shutdown happens. -/
theorem ShutOff.step {socket : WebSocket} (off : ShutOff socket) (target : Target) (wellFormed : socket.WellFormed)
    (call : Call) : ShutOff (step target socket call).2 ∧
      ∃ marks, (step target socket call).2.frameCodec.io.log = socket.frameCodec.io.log ++ marks ∧
        ∀ event ∈ marks, event = .shutDown := by
  obtain ⟨uses, drives, inner, writeLimit, codec⟩ := step_drives target wellFormed call
  have role := (step_stepped target wellFormed call).role.trans off.role
  have state : (WebSocket.step target socket call).2.state = .Terminated := by
    have forward := step_forward target wellFormed call
    rw [off.state] at forward
    exact forward.terminated
  let installed := (install call socket).frameCodec
  have empty : installed.writeBuf = [] := off.empty
  have rests : (useAll uses installed).2.writeBuf = [] ∧
      ∃ marks, (useAll uses installed).2.io.log = socket.frameCodec.io.log ++ marks ∧
        ∀ event ∈ marks, event = .shutDown := by
    have inactive : (install call socket).state ≠ .Active := by
      show socket.state ≠ .Active
      rw [off.state]
      nofun
    rcases drives.inactive inactive with rfl | rfl | rfl
    · exact ⟨empty, [], (List.append_nil _).symm, by simp⟩
    · rw [FrameCodec.useAll_single, FrameCodec.use, FrameCodec.flush, empty]
      exact ⟨empty, [], (List.append_nil _).symm, by simp⟩
    · have marked := FrameCodec.close_again empty
      rw [FrameCodec.useAll_single, FrameCodec.use]
      refine ⟨marked.writeBuf.trans empty, ?_⟩
      generalize installed.close = result at marked
      cases marked with
      | done log => exact ⟨[.shutDown], log, by simp⟩
      | failed log | stalled log => exact ⟨[], log.trans (List.append_nil _).symm, by simp⟩
  rw [codec]
  exact ⟨⟨role, state, by rw [codec]; exact rests.1⟩, rests.2⟩

theorem Sealed.step {socket : WebSocket} (isSealed : Sealed socket) (target : Target) (wellFormed : socket.WellFormed)
    (call : Call) : Sealed (step target socket call).2 := by
  obtain ⟨earlier, marks, log, without, all, off⟩ := isSealed
  by_cases none : marks = []
  · -- a first shutdown comes last in its step
    rw [none, List.append_nil] at log
    rw [← log] at without
    obtain ⟨uses, drives, inner, writeLimit, codec⟩ := step_drives target wellFormed call
    have role := (step_stepped target wellFormed call).role
    have quiet : ∀ between, GoesOn (install call socket).frameCodec between → .shutDown ∉ between.io.log :=
      fun _ goesOn => goesOn.without without
    rcases drives.shuts with others | ⟨rfl, server, terminated⟩
    · refine ⟨_, [], (List.append_nil _).symm, ?_, by simp, by simp⟩
      rw [codec]
      exact quiet _ (FrameCodec.useAll_goesOn others _)
    · rw [FrameCodec.useAll_single, FrameCodec.use] at codec
      rcases FrameCodec.close_shuts (install call socket).frameCodec with goesOn | ⟨between, goesOn, shut, empty⟩
      · refine ⟨_, [], (List.append_nil _).symm, ?_, by simp, by simp⟩
        rw [codec]
        exact quiet _ goesOn
      · refine ⟨between.io.log, [.shutDown], ?_, quiet _ goesOn, by simp, fun _ => ⟨role.trans server, terminated, ?_⟩⟩
        · rw [codec]
          exact shut
        · rw [codec]
          exact empty
  · obtain ⟨stillOff, more, grown, allToo⟩ := (off none).step target wellFormed call
    refine ⟨earlier, marks ++ more, by rw [grown, log, List.append_assoc], without, ?_, fun _ => stillOff⟩
    intro event found
    rcases List.mem_append.mp found with found | found
    · exact all event found
    · exact allToo event found

/-- **Nothing follows a shutdown.**  In every run, whatever the socket is asked and whatever its environment does: the
stream is shut down by a server only, which is then terminated and has nothing left to write; and nothing but a further
shutdown happens to the stream from then on. -/
theorem shutDown_last (target : Target) (stream : Stream) (role : Role) (config : Option WebSocketConfig)
    (calls : List Call) (fresh : .shutDown ∉ stream.log) {earlier later : List StreamEvent}
    (shut : (reached target stream role config calls).frameCodec.io.log = earlier ++ .shutDown :: later) :
    role = .Server ∧ ShutOff (reached target stream role config calls) ∧ ∀ event ∈ later, event = .shutDown := by
  have initial : (fromRawSocket stream role config).WellFormed ∧ Sealed (fromRawSocket stream role config) :=
    ⟨fromRawSocket_wellFormed stream role config, stream.log, [], (List.append_nil _).symm, fresh, by simp, by simp⟩
  have preserved : ∀ (socket : WebSocket) (call : Call), socket.WellFormed ∧ Sealed socket →
      (step target socket call).2.WellFormed ∧ Sealed (step target socket call).2 := by
    rintro socket call ⟨wellFormed, isSealed⟩
    exact ⟨step_wellFormed target wellFormed call, isSealed.step target wellFormed call⟩
  obtain ⟨_, before, marks, log, without, all, off⟩ : (reached target stream role config calls).WellFormed ∧
      Sealed (reached target stream role config calls) := Lib.final_preserves preserved calls initial
  obtain ⟨skipped, behind⟩ : ∃ skipped, marks = skipped ++ .shutDown :: later := by
    rcases List.append_eq_append_iff.mp (log.symm.trans shut) with ⟨skipped, _, behind⟩ | ⟨more, ahead, behind⟩
    · exact ⟨skipped, behind⟩
    · cases more with
      | nil => exact ⟨[], behind.symm⟩
      | cons event more =>
        cases behind
        exact absurd (by rw [ahead]; simp) without
  have isOff := off (by rw [behind]; simp)
  refine ⟨?_, isOff, fun event found => all event ?_⟩
  · exact (final_role target (fromRawSocket_wellFormed stream role config) calls).symm.trans isOff.role
  · rw [behind]
    exact List.mem_append_right _ (List.mem_cons_of_mem _ found)

theorem shutDown_last_closedByPeer :
    .Server = Role.Server ∧ ShutOff (reached (.unlimited .w64) .new .Server none (closedByPeer.take 2)) ∧
      ∀ event ∈ ([] : List StreamEvent), event = .shutDown := by
  have shut : (reached (.unlimited .w64) .new .Server none (closedByPeer.take 2)).frameCodec.io.log =
      [StreamEvent.wrote [0x88, 0x00], .flushed] ++ .shutDown :: [] := by decide
  exact shutDown_last (.unlimited .w64) .new .Server none (closedByPeer.take 2) (by decide) shut

end WebSocket

end MonoioTungstenite
