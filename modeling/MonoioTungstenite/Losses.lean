import MonoioTungstenite.Uses

/-! # Bytes that are lost

The bytes that whole writes have passed on and the bytes in the write buffer are those of the frames that
were appended (`Whole`), until a write is dropped before the stream has taken all of it: the buffer was lent
to the write and does not come back (`nothing_lost_iff`).  A flush that returns `Ok` has written everything,
but it has flushed the stream only if it found something to write (`flush_out_iff`). -/

namespace MonoioTungstenite

/-- What an event has taken off the write buffer; a write that fails leaves the buffer as it was. -/
def StreamEvent.passed : StreamEvent → List UInt8
  | .wrote bytes | .dropped bytes => bytes
  | .tore _ | .flushed | .shutDown => []

/-- What has been taken off the write buffer. -/
def Stream.passed (stream : Stream) : List UInt8 := stream.log.flatMap StreamEvent.passed

/-- The write is going to be dropped before the stream has taken all of this many bytes. -/
def WriteOutcome.Drops (outcome : WriteOutcome) (length : Nat) : Prop :=
  match outcome with
  | .stalled accepted => accepted < length
  | .done | .failed _ _ => False

instance (outcome : WriteOutcome) (length : Nat) : Decidable (outcome.Drops length) :=
  match outcome with
  | .stalled accepted => inferInstanceAs (Decidable (accepted < length))
  | .done | .failed _ _ => inferInstanceAs (Decidable False)

namespace FrameCodec

/-- What has been passed on and what is in the buffer is what was appended. -/
def Whole (codec : FrameCodec) : Prop := codec.io.passed ++ codec.writeBuf = encodeAll codec.queued

/-- Some bytes of what was appended are neither in the buffer nor passed on. -/
def Short (codec : FrameCodec) : Prop :=
  codec.io.passed.length + codec.writeBuf.length < (encodeAll codec.queued).length

theorem Whole.not_short {codec : FrameCodec} (whole : codec.Whole) : ¬ codec.Short := by
  have lengths := congrArg List.length whole
  rw [List.length_append] at lengths
  unfold Short
  omega

/-- A flush is going to be dropped before the stream has taken the whole buffer. -/
def Drops (codec : FrameCodec) : Prop := (codec.io.writes.headD .done).Drops codec.writeBuf.length

instance (codec : FrameCodec) : Decidable codec.Drops := inferInstanceAs (Decidable (WriteOutcome.Drops _ _))

/-- The operation is going to lose bytes. -/
def Loses (codec : FrameCodec) : Use → Prop
  | .send _ => codec.writeLimit < codec.writeBuf.length ∧ codec.Drops
  | .flush | .close => codec.Drops

/-- One of the operations, performed up to the first that does not succeed, is going to lose bytes. -/
def LosesAny : List Use → FrameCodec → Prop
  | [], _ => False
  | use :: uses, codec => codec.Loses use ∨ ((codec.use use).1 = .ok () ∧ LosesAny uses (codec.use use).2)

/-! ## One operation -/

theorem Marked.passed {event : StreamEvent} {codec : FrameCodec} {result : Result Unit × FrameCodec}
    (marked : Marked event codec result) (silent : event.passed = []) :
    result.2.io.passed = codec.io.passed ∧ result.2.writeBuf = codec.writeBuf ∧ result.2.queued = codec.queued := by
  cases marked with
  | done log => simp [Stream.passed, log, silent]
  | failed log => simp [Stream.passed, log]
  | stalled log => simp [Stream.passed, log]

/-- What becomes of the bytes when these frames are appended: all are kept, or some are lost. -/
structure Balanced (loses : Prop) (frames : List Frame) (before after : FrameCodec) : Prop where
  queued : after.queued = before.queued ++ frames
  kept : ¬ loses → after.io.passed ++ after.writeBuf = before.io.passed ++ before.writeBuf ++ encodeAll frames
  lost : loses → after.io.passed.length + after.writeBuf.length <
    before.io.passed.length + before.writeBuf.length + (encodeAll frames).length

theorem Balanced.refl (codec : FrameCodec) : Balanced False [] codec codec :=
  ⟨(List.append_nil _).symm, fun _ => (List.append_nil _).symm, False.elim⟩

theorem Balanced.le {loses : Prop} {frames : List Frame} {before after : FrameCodec}
    (balanced : Balanced loses frames before after) :
    after.io.passed.length + after.writeBuf.length ≤
      before.io.passed.length + before.writeBuf.length + (encodeAll frames).length := by
  by_cases some : loses
  · exact Nat.le_of_lt (balanced.lost some)
  · have lengths := congrArg List.length (balanced.kept some)
    simp only [List.length_append] at lengths
    exact Nat.le_of_eq lengths

theorem Balanced.trans {first second : Prop} {frames more : List Frame} {before between after : FrameCodec}
    (left : Balanced first frames before between) (right : Balanced second more between after) :
    Balanced (first ∨ second) (frames ++ more) before after := by
  have leftBound := left.le
  have rightBound := right.le
  constructor
  case queued => rw [right.queued, left.queued, List.append_assoc]
  case kept =>
    intro neither
    rw [right.kept (fun some => neither (.inr some)), left.kept (fun some => neither (.inl some)), encodeAll_append,
      List.append_assoc _ (encodeAll _)]
  case lost =>
    intro either
    rw [encodeAll_append, List.length_append]
    cases either with
    | inl some =>
      have less := left.lost some
      omega
    | inr some =>
      have less := right.lost some
      omega

theorem Balanced.congr {loses other : Prop} {frames : List Frame} {before after : FrameCodec}
    (balanced : Balanced loses frames before after) (same : other ↔ loses) : Balanced other frames before after := by
  obtain ⟨queued, kept, lost⟩ := balanced
  exact ⟨queued, fun none => kept (fun some => none (same.mpr some)), fun some => lost (same.mp some)⟩

theorem Balanced.whole {loses : Prop} {frames : List Frame} {before after : FrameCodec}
    (balanced : Balanced loses frames before after) (whole : before.Whole) (none : ¬ loses) : after.Whole := by
  rw [Whole, balanced.kept none, balanced.queued, encodeAll_append, whole]

theorem Balanced.short {loses : Prop} {frames : List Frame} {before after : FrameCodec}
    (balanced : Balanced loses frames before after) (some : before.Short ∨ (before.Whole ∧ loses)) : after.Short := by
  have bound := balanced.le
  rw [Short, balanced.queued, encodeAll_append, List.length_append]
  cases some with
  | inl short =>
    have less : before.io.passed.length + before.writeBuf.length < (encodeAll before.queued).length := short
    omega
  | inr both =>
    have lengths := congrArg List.length both.1
    rw [List.length_append] at lengths
    have less := balanced.lost both.2
    omega

/-! ## One operation -/

theorem append_balanced (frame : Frame) (codec : FrameCodec) : Balanced False [frame] codec (codec.append frame) := by
  refine ⟨rfl, fun _ => ?_, False.elim⟩
  show codec.io.passed ++ FrameEncoder.encode frame codec.writeBuf = _
  simp [FrameEncoder.encode_eq]

/-- A mark in the log of the stream moves no bytes. -/
theorem Marked.balanced {event : StreamEvent} {codec : FrameCodec} {result : Result Unit × FrameCodec}
    (marked : Marked event codec result) (silent : event.passed = []) : Balanced False [] codec result.2 := by
  obtain ⟨passed, writeBuf, queued⟩ := marked.passed silent
  exact ⟨by rw [queued, List.append_nil], fun _ => by rw [passed, writeBuf]; simp, False.elim⟩

theorem flush_balanced (codec : FrameCodec) : Balanced codec.Drops [] codec codec.flush.2 := by
  have queued : codec.flush.2.queued = codec.queued ++ [] := by rw [flush_queued, List.append_nil]
  have passed : ∀ event : StreamEvent, (codec.wrote event).io.passed = codec.io.passed ++ event.passed := by
    intro event
    simp [Stream.passed, wrote]
  have flushed := codec.flush_flushed
  generalize codec.flush = result at flushed queued ⊢
  have drops : ∀ {answer : WriteOutcome}, codec.io.writes.headD .done = answer →
      (codec.Drops ↔ answer.Drops codec.writeBuf.length) := by
    intro answer same
    rw [Drops, same]
  cases flushed with
  | empty nothing =>
    refine ⟨queued, fun _ => (List.append_nil _).symm, fun some => ?_⟩
    rw [Drops, nothing] at some
    cases answer : codec.io.writes.headD .done with
    | stalled accepted =>
      rw [answer] at some
      exact absurd some (Nat.not_lt_zero accepted)
    | _ => rw [answer] at some; exact some.elim
  | dropped accepted answer =>
    -- the buffer has been lent to the write: what the stream has not taken is gone
    have some := drops answer
    refine ⟨queued, fun none => ?_, fun lost => ?_⟩
    · have all : codec.writeBuf.length ≤ accepted := Nat.not_lt.mp (fun less => none (some.mpr less))
      show (codec.wrote _).io.passed ++ [] = _
      rw [passed, StreamEvent.passed, List.take_of_length_le all]
      simp
    · have less : accepted < codec.writeBuf.length := some.mp lost
      show (codec.wrote _).io.passed.length + 0 < _
      rw [passed, StreamEvent.passed, List.length_append, List.length_take]
      omega
  | tore accepted error answer =>
    refine ⟨queued, fun _ => ?_, fun lost => ((drops answer).mp lost).elim⟩
    rw [passed]
    simp [StreamEvent.passed, wrote]
  | wrote answer =>
    have marked := (onIo_flush_marked { codec.wrote (.wrote codec.writeBuf) with writeBuf := [] }).passed rfl
    refine ⟨queued, fun _ => ?_, fun lost => ((drops answer).mp lost).elim⟩
    rw [marked.1, marked.2.1]
    show (codec.wrote _).io.passed ++ [] = _
    rw [passed]
    simp [StreamEvent.passed]

/-- The frames that an operation appends, by how it ends. -/
theorem use_balanced (codec : FrameCodec) (use : Use) :
    Balanced (codec.Loses use) (sentBy use (codec.use use).1) codec (codec.use use).2 := by
  cases use with
  | flush => exact codec.flush_balanced
  | close =>
    show Balanced codec.Drops [] codec codec.close.2
    have flushed := codec.flush_balanced
    rw [close]
    generalize codec.flush = result at flushed ⊢
    obtain ⟨outcome, after⟩ := result
    cases outcome with
    | ok =>
      have shut := (onIo_shutdown_marked after).balanced rfl
      exact (flushed.trans shut).congr (or_false _).symm.to_iff
    | _ => exact flushed
  | send frame =>
    show Balanced (codec.writeLimit < codec.writeBuf.length ∧ codec.Drops) (sentBy (.send frame) (codec.send frame).1)
      codec (codec.send frame).2
    have flushed := codec.flush_balanced
    -- the frame joins the balance only if the flush before it went through
    have sent := codec.send_sent frame
    generalize codec.send frame = result at sent
    cases sent with
    | appended fits =>
      apply (append_balanced frame codec).congr
      exact iff_of_false (fun both => absurd both.1 (by omega)) not_false
    | flushed exceeds =>
      apply (flushed.trans (append_balanced frame _)).congr
      rw [or_false]
      exact and_iff_right exceeds
    | stopped exceeds stopped =>
      rw [sentBy_of_ne_ok _ stopped]
      apply flushed.congr
      exact and_iff_right exceeds

/-! ## Operations, one after the other -/

theorem useAll_balanced (uses : List Use) (codec : FrameCodec) :
    ∃ frames, Balanced (LosesAny uses codec) frames codec (useAll uses codec).2 := by
  induction uses generalizing codec with
  | nil => exact ⟨[], .refl codec⟩
  | cons use uses ih =>
    have first := codec.use_balanced use
    rw [useAll, LosesAny]
    generalize codec.use use = result at first ⊢
    obtain ⟨outcome, after⟩ := result
    cases outcome with
    | ok =>
      obtain ⟨frames, rest⟩ := ih after
      refine ⟨_, (first.trans rest).congr ?_⟩
      simp
    | _ => exact ⟨_, first.congr (by simp)⟩

/-- The reader, the limit and the answers to come hold no bytes of the write side. -/
theorem Balanced.of_same {loses : Prop} {frames : List Frame} {before after left right : FrameCodec}
    (balanced : Balanced loses frames before after)
    (sameBefore : left.io.log = before.io.log ∧ left.writeBuf = before.writeBuf ∧ left.queued = before.queued)
    (sameAfter : right.io.log = after.io.log ∧ right.writeBuf = after.writeBuf ∧ right.queued = after.queued) :
    Balanced loses frames left right := by
  obtain ⟨queued, kept, lost⟩ := balanced
  simp only [Stream.passed] at kept lost
  constructor
  case queued => rw [sameBefore.2.2, sameAfter.2.2, queued]
  case kept => simpa only [Stream.passed, sameBefore, sameAfter] using kept
  case lost => simpa only [Stream.passed, sameBefore, sameAfter] using lost

end FrameCodec

/-- No write has failed after its first byte. -/
def Stream.Untorn (stream : Stream) : Prop := ∀ event ∈ stream.log, event.passed = event.bytes

instance (stream : Stream) : Decidable stream.Untorn :=
  inferInstanceAs (Decidable (∀ event ∈ stream.log, event.passed = event.bytes))

theorem Stream.Untorn.accepted {stream : Stream} (untorn : stream.Untorn) : stream.accepted = stream.passed := by
  unfold Stream.accepted Stream.passed
  rw [List.flatMap_def, List.flatMap_def]
  apply congrArg List.flatten
  apply List.map_congr_left
  intro event found
  exact (untorn event found).symm

/-- Every byte that was queued has been taken by the stream or is still in the buffer; so the stream has
accepted a prefix of what was queued, unless a write has failed part-way. -/
structure NothingLost (codec : FrameCodec) : Prop where
  whole : codec.Whole
  wire : codec.io.Untorn → codec.io.accepted <+: encodeAll codec.queued

theorem FrameCodec.Whole.nothingLost {codec : FrameCodec} (whole : codec.Whole) : NothingLost codec := by
  refine ⟨whole, fun untorn => ?_⟩
  rw [untorn.accepted, ← whole]
  exact List.prefix_append _ _

namespace WebSocket

/-! ## Runs -/

/-- The call is dropped in the middle of a write, with bytes in the buffer that the stream has not taken. -/
def LosesBytes (target : Target) (socket : WebSocket) (call : Call) : Prop :=
  FrameCodec.LosesAny (uses target (install call socket) call.op) (install call socket).frameCodec

theorem step_balanced (target : Target) {socket : WebSocket} (wellFormed : socket.WellFormed) (call : Call) :
    ∃ frames, FrameCodec.Balanced (LosesBytes target socket call) frames socket.frameCodec
      (step target socket call).2.frameCodec := by
  obtain ⟨inner, writeLimit, codec⟩ := perform_uses target call.op (install_wellFormed wellFormed call)
  obtain ⟨frames, balanced⟩ := FrameCodec.useAll_balanced (uses target (install call socket) call.op)
    (install call socket).frameCodec
  refine ⟨frames, balanced.of_same ⟨rfl, rfl, rfl⟩ ?_⟩
  rw [step, codec]
  exact ⟨rfl, rfl, rfl⟩

/-- What is lost stays lost. -/
theorem final_short (target : Target) {socket : WebSocket} (wellFormed : socket.WellFormed)
    (short : socket.frameCodec.Short) (calls : List Call) :
    (Lib.final (step target) socket calls).frameCodec.Short := by
  have preserved : ∀ (socket : WebSocket) (call : Call), socket.WellFormed ∧ socket.frameCodec.Short →
      (step target socket call).2.WellFormed ∧ (step target socket call).2.frameCodec.Short := by
    intro socket call both
    obtain ⟨frames, balanced⟩ := step_balanced target both.1 call
    exact ⟨step_wellFormed target both.1 call, balanced.short (.inl both.2)⟩
  exact (@Lib.final_preserves _ _ _ (step target) (fun socket : WebSocket => socket.WellFormed ∧ socket.frameCodec.Short)
    preserved socket calls ⟨wellFormed, short⟩).2

theorem final_whole_iff (target : Target) {socket : WebSocket} (wellFormed : socket.WellFormed)
    (whole : socket.frameCodec.Whole) (calls : List Call) :
    (Lib.final (step target) socket calls).frameCodec.Whole ↔
      Lib.Meets (step target) (fun socket call => ¬ LosesBytes target socket call) socket calls := by
  induction calls generalizing socket with
  | nil => exact iff_of_true whole trivial
  | cons call calls ih =>
    have after := step_wellFormed target wellFormed call
    obtain ⟨frames, balanced⟩ := step_balanced target wellFormed call
    by_cases loses : LosesBytes target socket call
    · have short := final_short target after (balanced.short (.inr ⟨whole, loses⟩)) calls
      exact iff_of_false (fun whole => whole.not_short short) (fun meets => meets.1 loses)
    · rw [Lib.final_cons, ih after (balanced.whole whole loses)]
      exact ⟨fun meets => ⟨loses, meets⟩, fun meets => meets.2⟩

/-- After a run nothing that was queued is lost exactly if no call of it was dropped in the middle of a write. -/
theorem nothing_lost_iff (target : Target) (role : Role) (config : Option WebSocketConfig) (calls : List Call) :
    NothingLost (reached target .new role config calls).frameCodec ↔
      Lib.Meets (step target) (fun socket call => ¬ LosesBytes target socket call)
        (fromRawSocket .new role config) calls := by
  have initial := fromRawSocket_wellFormed .new role config
  have whole : (fromRawSocket .new role config).frameCodec.Whole := rfl
  rw [← final_whole_iff target initial whole calls]
  exact ⟨fun nothingLost => nothingLost.whole, fun whole => whole.nothingLost⟩

/-! ## Flushes that return -/

/-- Every event that has put bytes on the wire is followed by a flush of the stream that succeeded. -/
def settledLog : List StreamEvent → Bool
  | [] => true
  | event :: later => (event.bytes.isEmpty || later.contains .flushed) && settledLog later

/-- Everything that was queued has been taken by the stream, which has been flushed after it. -/
structure FlushedOut (codec : FrameCodec) : Prop where
  empty : codec.writeBuf = []
  taken : codec.io.passed = encodeAll codec.queued
  settled : settledLog codec.io.log = true

theorem settledLog_flushed (log : List StreamEvent) : settledLog (log ++ [.flushed]) = true := by
  induction log with
  | nil => rfl
  | cons event log ih => simp [settledLog, ih]

/-- A flush of the codec that succeeds has flushed the stream if there was something to write. -/
theorem flush_flushedOut_iff {codec : FrameCodec} (whole : codec.Whole) (returned : codec.flush.1 = .ok ()) :
    FlushedOut codec.flush.2 ↔ codec.writeBuf ≠ [] ∨ settledLog codec.io.log = true := by
  have ended := codec.flush_ok_iff.mp returned
  by_cases empty : codec.writeBuf = []
  · -- an early return: neither the stream nor the buffer is touched
    have same : codec.flush = (.ok (), codec) := by simp [FrameCodec.flush, empty]
    have taken : codec.io.passed = encodeAll codec.queued := by rw [← whole, empty, List.append_nil]
    rw [same]
    constructor
    · intro out
      exact .inr out.settled
    · intro condition
      exact ⟨empty, taken, condition.resolve_left (not_not_intro empty)⟩
  · have obliging := ended.resolve_left empty
    rw [FrameCodec.flush_of_obliging empty obliging]
    apply iff_of_true _ (.inl empty)
    constructor
    case empty => rfl
    case taken =>
      rw [← whole]
      simp [Stream.passed, StreamEvent.passed]
    case settled =>
      have split : codec.io.log ++ [.wrote codec.writeBuf, .flushed] =
          (codec.io.log ++ [.wrote codec.writeBuf]) ++ [.flushed] := by simp
      show settledLog (codec.io.log ++ [.wrote codec.writeBuf, .flushed]) = true
      rw [split]
      exact settledLog_flushed _

/-- In a run that loses no bytes, a `flush` that returns `Ok` has everything written and flushed exactly if it
has found something to write, or the stream had been flushed since the last write.  The runs that leave the buffer empty
and the stream unflushed are those in which a write has succeeded and the flush of the stream behind it has failed or been
dropped. -/
theorem flush_out_iff (target : Target) (role : Role) (config : Option WebSocketConfig) (calls : List Call)
    (kept : Lib.Meets (step target) (fun socket call => ¬ LosesBytes target socket call)
      (fromRawSocket .new role config) calls)
    {call : Call} (flushes : call.op = .flush)
    (returned : (step target (reached target .new role config calls) call).1 = .ok none) :
    FlushedOut (step target (reached target .new role config calls) call).2.frameCodec ↔
      (reached target .new role config calls).frameCodec.writeBuf ≠ [] ∨
        settledLog (reached target .new role config calls).frameCodec.io.log = true := by
  have whole := ((nothing_lost_iff target role config calls).mpr kept).whole
  generalize reached target .new role config calls = socket at returned whole ⊢
  rw [step, flushes] at returned ⊢
  have installed : (install call socket).frameCodec.Whole := whole
  show FlushedOut (flush (install call socket)).2.frameCodec ↔ _
  have replied : (asUnitReply (flush (install call socket))).1 = .ok none := returned
  have flushing := flush_flushed (install call socket)
  generalize flush (install call socket) = result at flushing replied ⊢
  cases flushing with
  -- a server that is closing never returns `Ok`
  | closed _ _ _ _ | failed _ _ _ _ _ | stalled _ _ _ _ => cases replied
  | codec =>
    have flushed : (install call socket).frameCodec.flush.1 = .ok () := by
      have mapped : (install call socket).frameCodec.flush.1.map (fun _ => (none : Option Message)) = .ok none := replied
      cases outcome : (install call socket).frameCodec.flush.1 with
      | ok => rfl
      | _ => rw [outcome] at mapped; cases mapped
    exact flush_flushedOut_iff installed flushed

/-- A client writes a ping and flushes twice: the first time the write fails. -/
def retriesWrite : List Call :=
  [.reading (.write (.Ping [1])) [], ⟨.flush, [], [.failed 0 ⟨.BrokenPipe⟩], [], [], []⟩]

theorem flush_out_iff_retriesWrite :
    FlushedOut (step (.unlimited .w64) (reached (.unlimited .w64) .new .Client none retriesWrite)
        (.reading .flush [])).2.frameCodec ↔
      (reached (.unlimited .w64) .new .Client none retriesWrite).frameCodec.writeBuf ≠ [] ∨
        settledLog (reached (.unlimited .w64) .new .Client none retriesWrite).frameCodec.io.log = true := by
  refine flush_out_iff _ _ _ retriesWrite ⟨?_, ?_, trivial⟩ rfl (by decide)
  · intro loses
    cases loses with
    | inl drops => exact absurd drops.2 (by decide)
    | inr rest => exact rest.2
  · intro loses
    cases loses with
    | inl drops => exact absurd (show FrameCodec.Drops _ from drops) (by decide)
    | inr rest => exact rest.2

/-- A client writes a ping and flushes: the write succeeds and the flush of the stream fails. -/
def failsStreamFlush : List Call :=
  [.reading (.write (.Ping [1])) [], ⟨.flush, [], [], [.failed ⟨.BrokenPipe⟩], [], []⟩]

/-- The flush is tried again, finds an empty buffer and returns `Ok`; the stream has not been flushed. -/
theorem not_flushedOut_failsStreamFlush :
    (step (.unlimited .w64) (reached (.unlimited .w64) .new .Client none failsStreamFlush) (.reading .flush [])).1 =
      .ok none ∧
    ¬ FlushedOut (step (.unlimited .w64) (reached (.unlimited .w64) .new .Client none failsStreamFlush)
      (.reading .flush [])).2.frameCodec := by
  refine ⟨by decide, fun out => ?_⟩
  have settled := out.settled
  revert settled
  decide

/-- A server drops a flush after the first byte of a ping, and then writes and flushes another one. -/
def dropsFlush : List Call :=
  [.reading (.write (.Ping [1, 2])) [], ⟨.flush, [], [.stalled 1], [], [], []⟩,
    .reading (.write (.Ping [3])) [], .reading .flush []]

/-- The byte is followed by the second frame. -/
theorem not_nothingLost_dropsFlush :
    ¬ NothingLost (reached (.unlimited .w64) .new .Server none dropsFlush).frameCodec := by
  intro nothingLost
  have cut := nothingLost.wire (by decide)
  revert cut
  decide

end WebSocket

end MonoioTungstenite
