import MonoioTungstenite.Codec
import MonoioTungstenite.Lib.Run

/-! # What is on the wire

As long as every write of the codec takes place as a whole, the stream has accepted a prefix of what was
queued and the write buffer holds the rest.  A write that stops part-way leaves the whole buffer in place,
so that the next one repeats what was accepted: `wire_prefix` is about the runs in which nothing more is
accepted then. -/

namespace MonoioTungstenite

/-- The bytes of frames, one after the other. -/
def encodeAll (frames : List Frame) : List UInt8 := frames.flatMap Frame.encoded

@[simp] theorem encodeAll_nil : encodeAll [] = [] := rfl

@[simp] theorem encodeAll_cons (frame : Frame) (frames : List Frame) :
    encodeAll (frame :: frames) = frame.encoded ++ encodeAll frames := rfl

@[simp] theorem encodeAll_append (first second : List Frame) :
    encodeAll (first ++ second) = encodeAll first ++ encodeAll second := List.flatMap_append

/-- What a write of these bytes would put on the wire. -/
def Stream.takes (buf : List UInt8) (stream : Stream) : List UInt8 :=
  match stream.writes.headD .done with
  | .done => buf
  | .failed accepted _ | .stalled accepted => buf.take accepted

namespace FrameCodec

/-! ## Operations and runs -/

/-- The operations of the codec that write. -/
inductive Use where
  | send (frame : Frame)
  | flush
  | close
  deriving DecidableEq, Repr

def use (codec : FrameCodec) : Use → Result Unit × FrameCodec
  | .send frame => codec.send frame
  | .flush => codec.flush
  | .close => codec.close

/-- Lays out the answers of the stream and the limit for the next operation. -/
def prepare (writes : List WriteOutcome) (flushes shutdowns : List IoOutcome) (writeLimit : Nat)
    (codec : FrameCodec) : FrameCodec :=
  { codec with io.writes := writes, io.flushes := flushes, io.shutdowns := shutdowns, writeLimit }

/-- An operation, what the stream will answer, and the limit in force. -/
structure UseCall where
  use : Use
  writes : List WriteOutcome
  flushes : List IoOutcome
  shutdowns : List IoOutcome
  writeLimit : Nat

/-- The codec as an operation finds it. -/
def before (codec : FrameCodec) (call : UseCall) : FrameCodec :=
  codec.prepare call.writes call.flushes call.shutdowns call.writeLimit

/-- One step of a run of the codec. -/
def step (codec : FrameCodec) (call : UseCall) : Result Unit × FrameCodec := (codec.before call).use call.use

/-- The frame that an operation has appended, by its reply. -/
def sentBy : Use → Result Unit → List Frame
  | .send frame, .ok () => [frame]
  | _, _ => []

theorem sentBy_of_ne_ok (use : Use) {outcome : Result Unit} (other : outcome ≠ .ok ()) : sentBy use outcome = [] := by
  cases use <;> cases outcome <;> first | rfl | exact absurd rfl other

/-- The frames whose `send` returned `Ok`, in order. -/
def sent (trace : List (UseCall × Result Unit)) : List Frame :=
  trace.flatMap fun (call, reply) => sentBy call.use reply

theorem flush_queued (codec : FrameCodec) : codec.flush.2.queued = codec.queued := codec.flush_untouched.queued

theorem close_queued (codec : FrameCodec) : codec.close.2.queued = codec.queued :=
  (Lib.andThen_keeps FrameCodec.queued fun _ _ => rfl).trans codec.flush_queued

/-- The record grows by the frames whose `send` returned `Ok`. -/
theorem use_queued (codec : FrameCodec) (use : Use) :
    (codec.use use).2.queued = codec.queued ++ sentBy use (codec.use use).1 := by
  cases use with
  | flush => exact codec.flush_queued.trans (List.append_nil _).symm
  | close => exact codec.close_queued.trans (List.append_nil _).symm
  | send frame =>
    show (codec.send frame).2.queued = codec.queued ++ sentBy (.send frame) (codec.send frame).1
    have sent := codec.send_sent frame
    generalize codec.send frame = result at sent
    cases sent with
    | appended => rfl
    | flushed exceeds flushed =>
      show codec.flush.2.queued ++ [frame] = _
      rw [codec.flush_queued]
      rfl
    | stopped exceeds stopped => rw [codec.flush_queued, sentBy_of_ne_ok _ stopped, List.append_nil]

/-! ## The wire -/

/-- The stream has accepted a prefix of what was queued, and the buffer holds the rest unless a write has
stopped part-way. -/
structure Intact (codec : FrameCodec) : Prop where
  wire : codec.io.accepted <+: encodeAll codec.queued
  rest : codec.io.torn = false → codec.io.accepted ++ codec.writeBuf = encodeAll codec.queued

/-- The operation flushes the write buffer. -/
def Flushes (codec : FrameCodec) : Use → Prop
  | .send _ => codec.writeLimit < codec.writeBuf.length
  | .flush | .close => True

/-- Where a write has stopped part-way, the operation puts nothing more on the wire. -/
def Mute (codec : FrameCodec) (use : Use) : Prop :=
  codec.io.torn = true → codec.Flushes use → codec.io.takes codec.writeBuf = []

theorem accepted_wrote (codec : FrameCodec) (event : StreamEvent) :
    (codec.wrote event).io.accepted = codec.io.accepted ++ event.bytes := by
  simp [Stream.accepted, wrote]

theorem Marked.accepted {event : StreamEvent} {codec : FrameCodec} {result : Result Unit × FrameCodec}
    (marked : Marked event codec result) (silent : event.bytes = []) :
    result.2.io.accepted = codec.io.accepted := by
  cases marked with
  | done log => simp [Stream.accepted, log, silent]
  | failed log => simp [Stream.accepted, log]
  | stalled log => simp [Stream.accepted, log]

/-- An operation of the stream that only leaves a mark does not change what is on the wire. -/
theorem Marked.intact {event : StreamEvent} {codec : FrameCodec} {result : Result Unit × FrameCodec}
    (marked : Marked event codec result) (mark : event = .flushed ∨ event = .shutDown) (intact : Intact codec) :
    Intact result.2 := by
  have silent : event.bytes = [] := by rcases mark with rfl | rfl <;> rfl
  have accepted := marked.accepted silent
  have torn : result.2.io.torn = codec.io.torn := by
    cases marked with
    | done log =>
      rcases mark with rfl | rfl
      · simp [Stream.torn, log]
      · simp [Stream.torn, log]
    | failed log => simp [Stream.torn, log]
    | stalled log => simp [Stream.torn, log]
  have same : result.2.writeBuf = codec.writeBuf ∧ result.2.queued = codec.queued := by
    cases marked <;> exact ⟨rfl, rfl⟩
  refine ⟨?_, ?_⟩
  · rw [accepted, same.2]
    exact intact.wire
  · rw [accepted, torn, same.1, same.2]
    exact intact.rest

/-- A beginning of the buffer keeps the wire a prefix, where the buffer is what comes next. -/
theorem Intact.accepts {codec : FrameCodec} (intact : Intact codec) {bytes : List UInt8}
    (part : bytes <+: codec.writeBuf) (mute : codec.io.torn = true → bytes = []) :
    codec.io.accepted ++ bytes <+: encodeAll codec.queued := by
  cases torn : codec.io.torn with
  | true =>
    rw [mute torn, List.append_nil]
    exact intact.wire
  | false =>
    rw [← intact.rest torn]
    exact (List.prefix_append_right_inj _).mpr part

theorem Intact.flush {codec : FrameCodec} (intact : Intact codec) (mute : codec.Mute .flush) :
    Intact codec.flush.2 := by
  -- a stream that has been torn takes no more bytes, so that what it has taken stays a beginning
  have accepts : ∀ event : StreamEvent, event.bytes <+: codec.writeBuf →
      codec.io.takes codec.writeBuf = event.bytes →
      (codec.wrote event).io.accepted <+: encodeAll codec.queued := by
    intro event part took
    rw [accepted_wrote]
    refine intact.accepts part fun torn => ?_
    rw [← took]
    exact mute torn trivial
  have flushed := codec.flush_flushed
  generalize codec.flush = result at flushed ⊢
  cases flushed with
  | empty => exact intact
  | dropped accepted answer =>
    refine ⟨accepts _ (List.take_prefix accepted _) (by rw [Stream.takes, answer]; rfl), ?_⟩
    intro untorn
    simp [Stream.torn, FrameCodec.wrote] at untorn
  | tore accepted error answer =>
    refine ⟨accepts _ (List.take_prefix accepted _) (by rw [Stream.takes, answer]; rfl), ?_⟩
    intro untorn
    -- nothing was accepted: the next write starts over
    have before : codec.io.torn = false ∧ codec.writeBuf.take accepted = [] := by
      simpa [Stream.torn, FrameCodec.wrote] using untorn
    rw [accepted_wrote]
    show codec.io.accepted ++ codec.writeBuf.take accepted ++ codec.writeBuf = _
    rw [before.2, List.append_nil]
    exact intact.rest before.1
  | wrote answer =>
    refine (onIo_flush_marked _).intact (.inl rfl)
      ⟨accepts _ (List.prefix_refl _) (by rw [Stream.takes, answer]; rfl), ?_⟩
    intro untorn
    have before : codec.io.torn = false := by
      simpa [Stream.torn, FrameCodec.wrote] using untorn
    show (codec.wrote _).io.accepted ++ [] = _
    rw [accepted_wrote, List.append_nil]
    exact intact.rest before

theorem Intact.append {codec : FrameCodec} (intact : Intact codec) (frame : Frame) :
    Intact (codec.append frame) := by
  have grown : encodeAll (codec.queued ++ [frame]) = encodeAll codec.queued ++ frame.encoded := by simp
  refine ⟨?_, ?_⟩
  · show codec.io.accepted <+: encodeAll (codec.queued ++ [frame])
    rw [grown]
    exact intact.wire.trans (List.prefix_append _ _)
  · intro untorn
    show codec.io.accepted ++ FrameEncoder.encode frame codec.writeBuf = encodeAll (codec.queued ++ [frame])
    rw [FrameEncoder.encode_eq, grown, ← List.append_assoc, intact.rest untorn]

/-- Every operation of the codec keeps the wire as it should be, unless it goes on after a write that has
stopped part-way. -/
theorem Intact.use {codec : FrameCodec} (intact : Intact codec) {use : Use} (mute : codec.Mute use) :
    Intact (codec.use use).2 := by
  cases use with
  | flush => exact intact.flush mute
  | close =>
    refine Lib.andThen_rule (fun result => Intact result.2) (fun _ _ => intact.flush mute) fun _ _ => ?_
    exact (onIo_shutdown_marked _).intact (.inr rfl) (intact.flush mute)
  | send frame =>
    show Intact (codec.send frame).2
    have sent := codec.send_sent frame
    generalize codec.send frame = result at sent
    cases sent with
    | appended => exact intact.append frame
    | flushed exceeds => exact (intact.flush fun torn _ => mute torn exceeds).append frame
    | stopped exceeds => exact intact.flush fun torn _ => mute torn exceeds

/-! ## Operations, one after the other -/

/-- Performs operations up to the first that does not succeed. -/
def useAll : List Use → FrameCodec → Result Unit × FrameCodec
  | [], codec => (.ok (), codec)
  | use :: uses, codec => Lib.andThen (codec.use use) fun _ codec => useAll uses codec

/-- The frames that operations are to append. -/
def sends : List Use → List Frame :=
  List.flatMap fun use =>
    match use with
    | .send frame => [frame]
    | .flush | .close => []

theorem andThen_unit {σ : Type} (call : Result Unit × σ) :
    (Lib.andThen call fun _ state => ((.ok () : Result Unit), state)) = call := by
  obtain ⟨result, state⟩ := call
  cases result <;> rfl

@[simp] theorem useAll_single (use : Use) (codec : FrameCodec) : useAll [use] codec = codec.use use :=
  andThen_unit _

theorem useAll_append (first second : List Use) (codec : FrameCodec) :
    useAll (first ++ second) codec = Lib.andThen (useAll first codec) fun _ codec => useAll second codec := by
  induction first generalizing codec with
  | nil => rfl
  | cons use uses inductionHypothesis =>
    rw [List.cons_append, useAll, useAll]
    generalize codec.use use = result
    obtain ⟨outcome, codec⟩ := result
    cases outcome with
    | ok => exact inductionHypothesis codec
    | _ => rfl

/-- The record grows by some of the frames, the first ones. -/
theorem useAll_queued (uses : List Use) (codec : FrameCodec) :
    ∃ sent, sent <+: sends uses ∧ (useAll uses codec).2.queued = codec.queued ++ sent := by
  induction uses generalizing codec with
  | nil => exact ⟨[], List.nil_prefix, (List.append_nil _).symm⟩
  | cons use uses inductionHypothesis =>
    have grown := codec.use_queued use
    have whole : sends (use :: uses) = sends [use] ++ sends uses := by cases use <;> rfl
    rw [useAll, whole]
    generalize codec.use use = result at grown ⊢
    obtain ⟨outcome, after⟩ := result
    cases outcome with
    | ok =>
      obtain ⟨sent, part, rest⟩ := inductionHypothesis after
      have all : sentBy use (.ok ()) = sends [use] := by cases use <;> rfl
      refine ⟨sends [use] ++ sent, (List.prefix_append_right_inj _).mpr part, ?_⟩
      rw [Lib.andThen_ok, rest, grown, all, List.append_assoc]
    | _ =>
      refine ⟨[], List.nil_prefix, ?_⟩
      exact grown.trans (by rw [sentBy_of_ne_ok use (by nofun)])

/-- Performing operations is a run of the codec, under the answers as they stand. -/
theorem useAll_final (uses : List Use) (codec : FrameCodec) :
    ∃ calls, (useAll uses codec).2 = Lib.final step codec calls := by
  induction uses generalizing codec with
  | nil => exact ⟨[], rfl⟩
  | cons use uses inductionHypothesis =>
    let call : UseCall := ⟨use, codec.io.writes, codec.io.flushes, codec.io.shutdowns, codec.writeLimit⟩
    have same : step codec call = codec.use use := rfl
    rcases Lib.andThen_cases (codec.use use) fun _ codec => useAll uses codec with ⟨_, _, run⟩ | ⟨_, _, run⟩
    · obtain ⟨calls, rest⟩ := inductionHypothesis (codec.use use).2
      refine ⟨call :: calls, ?_⟩
      rw [useAll, run, rest, Lib.final_cons, same]
    · refine ⟨[call], ?_⟩
      rw [useAll, run, Lib.final_cons, same]
      rfl

/-! The operations that write do not look at the reader. -/

def withInner (inner : FramedRead) (codec : FrameCodec) : FrameCodec := { codec with inner }

theorem flush_withInner (inner : FramedRead) (codec : FrameCodec) :
    (codec.withInner inner).flush = codec.flush.map id (withInner inner) := by
  unfold flush
  by_cases empty : codec.writeBuf.isEmpty = true
  · rw [if_pos empty, if_pos (show (codec.withInner inner).writeBuf.isEmpty = true from empty)]
    rfl
  · rw [if_neg empty, if_neg (show ¬ (codec.withInner inner).writeBuf.isEmpty = true from empty)]
    simp only [onIo, Stream.writeAll, withInner]
    cases codec.io.writes.headD .done with
    | done => rfl
    | failed accepted error => rfl
    | stalled accepted => rfl

theorem andThen_withInner (inner : FramedRead) {call : Result Unit × FrameCodec}
    {rest rest' : Unit → FrameCodec → Result Unit × FrameCodec}
    (same : ∀ codec, rest' () (codec.withInner inner) = (rest () codec).map id (withInner inner)) :
    Lib.andThen (call.map id (withInner inner)) rest' = (Lib.andThen call rest).map id (withInner inner) := by
  obtain ⟨outcome, codec⟩ := call
  cases outcome with
  | ok => exact same codec
  | _ => rfl

theorem use_withInner (inner : FramedRead) (codec : FrameCodec) (use : Use) :
    (codec.withInner inner).use use = (codec.use use).map id (withInner inner) := by
  cases use with
  | flush => exact flush_withInner inner codec
  | close =>
    show Lib.andThen (codec.withInner inner).flush _ = (Lib.andThen codec.flush _).map _ _
    rw [flush_withInner]
    exact andThen_withInner inner fun codec => rfl
  | send frame =>
    show Lib.andThen (if codec.writeBuf.length > codec.writeLimit then (codec.withInner inner).flush
        else (.ok (), codec.withInner inner)) _ = (Lib.andThen (if codec.writeBuf.length > codec.writeLimit
        then codec.flush else (.ok (), codec)) _).map _ _
    split
    · rw [flush_withInner]
      exact andThen_withInner inner fun codec => rfl
    · rfl

theorem useAll_withInner (inner : FramedRead) (uses : List Use) (codec : FrameCodec) :
    useAll uses (codec.withInner inner) = (useAll uses codec).map id (withInner inner) := by
  induction uses generalizing codec with
  | nil => rfl
  | cons use uses inductionHypothesis =>
    rw [useAll, useAll, use_withInner]
    exact andThen_withInner inner fun codec => inductionHypothesis codec

/-! ## Streams that do what they are asked -/

end FrameCodec

/-- Every answer of the stream is going to be that the operation is done. -/
structure Stream.Calm (stream : Stream) : Prop where
  writes : ∀ answer ∈ stream.writes, answer = .done
  flushes : ∀ answer ∈ stream.flushes, answer = .done
  shutdowns : ∀ answer ∈ stream.shutdowns, answer = .done

theorem headD_of_forall {α : Type} {value : α} {list : List α} (all : ∀ element ∈ list, element = value) :
    list.headD value = value := by
  cases list with
  | nil => rfl
  | cons head tail => exact all head List.mem_cons_self

theorem tail_of_forall {α : Type} {holds : α → Prop} {list : List α} (all : ∀ element ∈ list, holds element) :
    ∀ element ∈ list.tail, holds element := fun element found => all element (List.mem_of_mem_tail found)

namespace FrameCodec

/-- What operations do on a stream that does what it is asked. -/
structure Calmly (frames : List Frame) (codec : FrameCodec) (result : Result Unit × FrameCodec) : Prop where
  returned : result.1 = .ok ()
  calm : result.2.io.Calm
  wire : result.2.io.accepted ++ result.2.writeBuf = codec.io.accepted ++ codec.writeBuf ++ encodeAll frames
  grown : codec.io.accepted <+: result.2.io.accepted
  queued : result.2.queued = codec.queued ++ frames

theorem Calmly.trans {first second : List Frame} {codec : FrameCodec} {result final : Result Unit × FrameCodec}
    (left : Calmly first codec result) (right : Calmly second result.2 final) :
    Calmly (first ++ second) codec final := by
  refine ⟨right.returned, right.calm, ?_, left.grown.trans right.grown, ?_⟩
  · rw [right.wire, left.wire, encodeAll_append, List.append_assoc _ (encodeAll _)]
  · rw [right.queued, left.queued, List.append_assoc]

theorem flush_calm {codec : FrameCodec} (calm : codec.io.Calm) :
    Calmly [] codec codec.flush ∧ codec.flush.2.writeBuf = [] := by
  by_cases empty : codec.writeBuf = []
  · have nothing : codec.flush = (.ok (), codec) := by simp [flush, empty]
    rw [nothing]
    exact ⟨⟨rfl, calm, by simp, List.prefix_refl _, (List.append_nil _).symm⟩, empty⟩
  · have obliging : codec.io.Obliging := ⟨headD_of_forall calm.writes, headD_of_forall calm.flushes⟩
    have accepted : ({ codec.io.answered with log := codec.io.log ++ [.wrote codec.writeBuf, .flushed] } : Stream).accepted =
        codec.io.accepted ++ codec.writeBuf := by
      simp [Stream.accepted, StreamEvent.bytes]
    rw [flush_of_obliging empty obliging]
    refine ⟨⟨rfl, ⟨tail_of_forall calm.writes, tail_of_forall calm.flushes, calm.shutdowns⟩, ?_, ?_, ?_⟩, rfl⟩
    · rw [accepted, encodeAll_nil]
    · rw [accepted]
      exact List.prefix_append _ _
    · exact (List.append_nil _).symm

theorem append_calm {codec : FrameCodec} (calm : codec.io.Calm) (frame : Frame) :
    Calmly [frame] codec (.ok (), codec.append frame) := by
  refine ⟨rfl, calm, ?_, List.prefix_refl _, by simp [append]⟩
  simp [append, FrameEncoder.encode_eq]

theorem use_calm {codec : FrameCodec} (calm : codec.io.Calm) (use : Use) :
    Calmly (sends [use]) codec (codec.use use) := by
  obtain ⟨flushed, _⟩ := flush_calm calm
  cases use with
  | flush => exact flushed
  | send frame =>
    show Calmly [frame] codec (codec.send frame)
    have sent := codec.send_sent frame
    generalize codec.send frame = result at sent
    cases sent with
    | appended => exact append_calm calm frame
    | flushed => exact flushed.trans (append_calm flushed.calm frame)
    | stopped exceeds stopped => exact absurd flushed.returned stopped
  | close =>
    have shutdowns := headD_of_forall flushed.calm.shutdowns
    have run : codec.close = onIo Stream.shutdown codec.flush.2 := by
      rw [close, show codec.flush = (.ok (), codec.flush.2) from Prod.ext flushed.returned rfl, Lib.andThen_ok]
    have marked := (onIo_shutdown_marked codec.flush.2).accepted rfl
    have shut : onIo Stream.shutdown codec.flush.2 = (.ok (), { codec.flush.2 with
        io.shutdowns := codec.flush.2.io.shutdowns.tail
        io.log := codec.flush.2.io.log ++ [.shutDown] }) := by
      simp only [onIo, Stream.shutdown, shutdowns]
      rfl
    show Calmly [] codec codec.close
    rw [run]
    rw [shut] at marked ⊢
    refine ⟨rfl, ⟨flushed.calm.writes, flushed.calm.flushes, tail_of_forall flushed.calm.shutdowns⟩, ?_, ?_, ?_⟩
    · rw [marked]
      exact flushed.wire
    · rw [marked]
      exact flushed.grown
    · exact flushed.queued

theorem useAll_calm {codec : FrameCodec} (calm : codec.io.Calm) (uses : List Use) :
    Calmly (sends uses) codec (useAll uses codec) := by
  induction uses generalizing codec with
  | nil => exact ⟨rfl, calm, by simp [useAll, sends], List.prefix_refl _, by simp [useAll, sends]⟩
  | cons use uses inductionHypothesis =>
    have first := use_calm calm use
    have run : useAll (use :: uses) codec = useAll uses (codec.use use).2 := by
      rw [useAll, show codec.use use = (.ok (), (codec.use use).2) from Prod.ext first.returned rfl, Lib.andThen_ok]
    have whole : sends (use :: uses) = sends [use] ++ sends uses := by cases use <;> rfl
    rw [run, whole]
    exact first.trans (inductionHypothesis first.calm)

/-- Operations that end with a flush or a close leave the buffer empty. -/
theorem useAll_calm_flushed {codec : FrameCodec} (calm : codec.io.Calm) (uses : List Use) {last : Use}
    (flushing : last = .flush ∨ last = .close) : (useAll (uses ++ [last]) codec).2.writeBuf = [] := by
  have before := useAll_calm calm uses
  have run : useAll (uses ++ [last]) codec = (useAll uses codec).2.use last := by
    rw [useAll_append, show useAll uses codec = (.ok (), (useAll uses codec).2) from Prod.ext before.returned rfl,
      Lib.andThen_ok, useAll_single]
  obtain ⟨flushed, empty⟩ := flush_calm before.calm
  rw [run]
  rcases flushing with rfl | rfl
  · exact empty
  · show (FrameCodec.close _).2.writeBuf = []
    rw [close, show (useAll uses codec).2.flush = (.ok (), (useAll uses codec).2.flush.2) from
      Prod.ext flushed.returned rfl, Lib.andThen_ok]
    exact empty

end FrameCodec

namespace FrameCodec

/-! ## Runs -/

/-- What the stream has accepted is a prefix of the encodings of the frames whose `send` returned `Ok`. -/
def WireIsPrefix (writeLimit : Nat) (calls : List UseCall) : Prop :=
  (Lib.final step (FrameCodec.new .new writeLimit) calls).io.accepted <+:
    encodeAll (sent (Lib.trace step (FrameCodec.new .new writeLimit) calls))

/-- In every run in which nothing more is accepted once a write has stopped part-way, the stream has
accepted a prefix of what was sent. -/
theorem wire_prefix (writeLimit : Nat) (calls : List UseCall)
    (mute : Lib.Meets step (fun codec call => (codec.before call).Mute call.use)
      (FrameCodec.new .new writeLimit) calls) :
    WireIsPrefix writeLimit calls := by
  let invariant (past : List (UseCall × Result Unit)) (codec : FrameCodec) : Prop :=
    Intact codec ∧ codec.queued = sent past
  have preserved : ∀ past codec (call : UseCall), invariant past codec → (codec.before call).Mute call.use →
      invariant (past ++ [(call, (step codec call).1)]) (step codec call).2 := by
    rintro past codec call ⟨intact, queued⟩ mute
    have ready : Intact (codec.before call) := ⟨intact.wire, intact.rest⟩
    refine ⟨ready.use mute, ?_⟩
    have grown := (codec.before call).use_queued call.use
    show ((codec.before call).use call.use).2.queued = _
    rw [grown, show (codec.before call).queued = sent past from queued]
    simp [sent, step]
  have initial : invariant [] (FrameCodec.new .new writeLimit) := ⟨⟨List.prefix_refl _, fun _ => rfl⟩, rfl⟩
  obtain ⟨intact, queued⟩ := Lib.trace_invariant preserved initial mute
  unfold WireIsPrefix
  rw [List.nil_append] at queued
  rw [← queued]
  exact intact.wire

/-- A frame is sent and its first flush fails at once; the next one succeeds. -/
def failsAtOnce : List UseCall :=
  [⟨.send (Frame.ping []), [], [], [], 0⟩, ⟨.flush, [.failed 0 ⟨.BrokenPipe⟩], [], [], 0⟩, ⟨.flush, [], [], [], 0⟩]

theorem wire_prefix_failsAtOnce : WireIsPrefix 0 failsAtOnce := by
  refine wire_prefix 0 failsAtOnce ⟨?_, ?_, ?_, trivial⟩
  · intro torn
    exact absurd torn (by decide)
  · intro torn
    exact absurd torn (by decide)
  · intro torn
    exact absurd torn (by decide)

/-- A frame is sent and its first flush fails after one byte; the next one succeeds. -/
def failsAfterOneByte : List UseCall :=
  [⟨.send (Frame.ping []), [], [], [], 0⟩, ⟨.flush, [.failed 1 ⟨.BrokenPipe⟩], [], [], 0⟩, ⟨.flush, [], [], [], 0⟩]

/-- The byte is on the wire twice. -/
theorem not_wireIsPrefix_failsAfterOneByte : ¬ WireIsPrefix 0 failsAfterOneByte := by
  unfold WireIsPrefix
  decide

end FrameCodec

end MonoioTungstenite
