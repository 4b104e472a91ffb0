import MonoioTungstenite.Decode

/-! # The frame codec

`protocol/frame/codec.rs`: the write buffer in front of a stream, and the reader behind it.

What the stream answers is not up to the code.  Each operation finds a list of answers to its writes,
flushes and shutdowns, used in order, and a stream without a list left does what it is asked.  The
stream keeps a log of what it accepted.  The source has the stream inside `FramedRead`; the model keeps
the two directions apart.

`FramedRead` comes from another crate.  It calls the decoder on a buffer that it fills from the stream,
and when it does which is a list of `ReadAction`s that a call of `next` works off.  It may also hand out
any frame, so that a statement about every list of actions covers every sequence of frames. -/

namespace MonoioTungstenite

/-! ## The stream -/

/-- How a flush or a shutdown ends; a stalled one has not ended when its caller gives up. -/
inductive IoOutcome where
  | done
  | failed (error : IoError)
  | stalled
  deriving DecidableEq, Repr

/-- How a `write_all` ends; the stream has accepted some bytes of one that fails or stalls. -/
inductive WriteOutcome where
  | done
  | failed (accepted : Nat) (error : IoError)
  | stalled (accepted : Nat)
  deriving DecidableEq, Repr

/-- What the stream has seen: the bytes of a write that returned, of one that failed and of one that its
caller dropped, and the flushes and shutdowns that succeeded. -/
inductive StreamEvent where
  | wrote (bytes : List UInt8)
  | tore (bytes : List UInt8)
  | dropped (bytes : List UInt8)
  | flushed
  | shutDown
  deriving DecidableEq, Repr

/-- The bytes an event has put on the wire. -/
def StreamEvent.bytes : StreamEvent → List UInt8
  | .wrote bytes | .tore bytes | .dropped bytes => bytes
  | .flushed | .shutDown => []

structure Stream where
  log : List StreamEvent
  writes : List WriteOutcome
  flushes : List IoOutcome
  shutdowns : List IoOutcome
  deriving DecidableEq, Repr

namespace Stream

def new : Stream := ⟨[], [], [], []⟩

/-- Everything the stream has accepted. -/
def accepted (stream : Stream) : List UInt8 := stream.log.flatMap StreamEvent.bytes

/-- Some `write_all` stopped part-way: it failed after the first byte, or it was dropped. -/
def torn (stream : Stream) : Bool :=
  stream.log.any fun event =>
    match event with
    | .tore bytes => !bytes.isEmpty
    | .dropped _ => true
    | _ => false

def writeAll (buf : List UInt8) (stream : Stream) : Result Unit × Stream :=
  let answered := { stream with writes := stream.writes.tail }
  match stream.writes.headD .done with
  | .done => (.ok (), { answered with log := stream.log ++ [.wrote buf] })
  | .failed accepted error => (.err (.Io error), { answered with log := stream.log ++ [.tore (buf.take accepted)] })
  | .stalled accepted => (.pending, { answered with log := stream.log ++ [.dropped (buf.take accepted)] })

def flush (stream : Stream) : Result Unit × Stream :=
  let answered := { stream with flushes := stream.flushes.tail }
  match stream.flushes.headD .done with
  | .done => (.ok (), { answered with log := stream.log ++ [.flushed] })
  | .failed error => (.err (.Io error), answered)
  | .stalled => (.pending, answered)

def shutdown (stream : Stream) : Result Unit × Stream :=
  let answered := { stream with shutdowns := stream.shutdowns.tail }
  match stream.shutdowns.headD .done with
  | .done => (.ok (), { answered with log := stream.log ++ [.shutDown] })
  | .failed error => (.err (.Io error), answered)
  | .stalled => (.pending, answered)

/-- The next write and the next flush are going to succeed. -/
def Obliging (stream : Stream) : Prop :=
  stream.writes.headD .done = .done ∧ stream.flushes.headD .done = .done

instance (stream : Stream) : Decidable stream.Obliging := inferInstanceAs (Decidable (_ ∧ _))

/-- The answers behind a write and a flush. -/
def answered (stream : Stream) : Stream :=
  { stream with writes := stream.writes.tail, flushes := stream.flushes.tail }

end Stream

/-! ## The reader -/

/-- One thing that `FramedRead::next` does. -/
inductive ReadAction where
  | fill (chunk : List UInt8)
  | decode
  | frame (frame : Frame)
  | eof
  | fail (error : IoError)
  deriving DecidableEq, Repr

/-- What has come out of the reader: a frame, or an error of the decoder with the header it was about. -/
inductive Arrival where
  | frame (frame : Frame)
  | refused (header : Option FrameHeader) (error : Error)
  deriving DecidableEq, Repr

/-- The header a call of the decoder is about. -/
def FrameDecoder.currentHeader (decoder : FrameDecoder) (src : List UInt8) : Option FrameHeader :=
  match decoder.header with
  | some (header, _) => some header
  | none =>
    match (FrameHeader.parse ⟨src, 0⟩).1 with
    | .ok (some (header, _)) => some header
    | _ => none

/-- `monoio_codec::FramedRead` with a `FrameDecoder`, which has `errored` when the last thing it returned was an
error.  Nothing reads `received`, `lost` and `history`, the records of the bytes it has taken off the stream, of
those that dropped reads have lost, and of what has come out of it. -/
structure FramedRead where
  decoder : FrameDecoder
  buffer : List UInt8
  errored : Bool
  script : List ReadAction
  received : List UInt8
  lost : List UInt8
  history : List Arrival
  deriving DecidableEq, Repr

namespace FramedRead

def new : FramedRead := ⟨FrameDecoder.default, [], false, [], [], [], []⟩

/-- Works off actions up to the first that makes `next` return; it waits when there are none left, and is dropped. -/
def run (target : Target) : List ReadAction → FramedRead → Result (Option Frame) × FramedRead
  -- the buffer is lent to the read that waits
  | [], reader => (.pending, { reader with buffer := [], script := [], lost := reader.lost ++ reader.buffer })
  | .fill chunk :: script, reader =>
    run target script { reader with buffer := reader.buffer ++ chunk, script, received := reader.received ++ chunk }
  | .decode :: script, reader =>
    match reader.decoder.decode target reader.buffer with
    | (.ok (.Some frame), decoder, buffer) =>
      (.ok (some frame), { reader with decoder, buffer, script, history := reader.history ++ [.frame frame] })
    | (.ok _, decoder, buffer) => run target script { reader with decoder, buffer, script }
    | (.err error, decoder, buffer) =>
      let refused := .refused (reader.decoder.currentHeader reader.buffer) error
      (.err error, { reader with decoder, buffer, errored := true, script, history := reader.history ++ [refused] })
    | (.panic site, decoder, buffer) => (.panic site, { reader with decoder, buffer, script })
    | (.pending, decoder, buffer) => (.pending, { reader with decoder, buffer, script })
  | .frame frame :: script, reader =>
    (.ok (some frame), { reader with script, history := reader.history ++ [.frame frame] })
  | .eof :: script, reader =>
    if reader.buffer.isEmpty then (.ok none, { reader with script })
    else (.err (.Io ⟨.Other⟩), { reader with errored := true, script })
  | .fail error :: script, reader => (.err (.Io error), { reader with errored := true, script })

/-- `Stream::next`; behind an error it returns `None` once, and touches nothing. -/
def next (target : Target) (reader : FramedRead) : Result (Option Frame) × FramedRead :=
  if reader.errored then (.ok none, { reader with errored := false })
  else run target reader.script reader

theorem next_errored (target : Target) {reader : FramedRead} (errored : reader.errored = true) :
    next target reader = (.ok none, { reader with errored := false }) := by
  rw [next, if_pos errored]

theorem next_eq_run (target : Target) {reader : FramedRead} (goesOn : reader.errored = false) :
    next target reader = run target reader.script reader := by
  rw [next, if_neg (by rw [goesOn]; exact Bool.false_ne_true)]

end FramedRead

/-! ## The codec -/

/-- Codec for WebSocket frames.  Nothing reads `queued`, the record of the frames appended to the write
buffer. -/
structure FrameCodec where
  inner : FramedRead
  io : Stream
  writeBuf : List UInt8
  writeLimit : Nat
  queued : List Frame
  deriving DecidableEq, Repr

namespace FrameCodec

def new (io : Stream) (writeLimit : Nat) : FrameCodec := ⟨FramedRead.new, io, [], writeLimit, []⟩

/-- Runs an operation of the stream. -/
def onIo (call : Stream → Result Unit × Stream) (codec : FrameCodec) : Result Unit × FrameCodec :=
  (call codec.io).map id fun io => { codec with io }

/-- `FrameCodec::flush` -/
def flush (codec : FrameCodec) : Result Unit × FrameCodec :=
  if codec.writeBuf.isEmpty then (.ok (), codec)
  else
    let buf := codec.writeBuf
    match onIo (Stream.writeAll buf) { codec with writeBuf := [] } with
    -- the buffer is lent to the stream until `write_all` returns
    | (.pending, codec) => (.pending, codec)
    | (res, codec) =>
      Lib.andThen (res, { codec with writeBuf := buf }) fun _ codec =>
        onIo Stream.flush { codec with writeBuf := [] }

/-- Encodes a frame into the write buffer. -/
def append (frame : Frame) (codec : FrameCodec) : FrameCodec :=
  { codec with
    writeBuf := FrameEncoder.encode frame codec.writeBuf
    queued := codec.queued ++ [frame] }

/-- `Sink::send` -/
def send (frame : Frame) (codec : FrameCodec) : Result Unit × FrameCodec :=
  Lib.andThen (if codec.writeBuf.length > codec.writeLimit then codec.flush else (.ok (), codec)) fun _ codec =>
    (.ok (), codec.append frame)

/-- `Sink::close` -/
def close (codec : FrameCodec) : Result Unit × FrameCodec :=
  Lib.andThen codec.flush fun _ codec => onIo Stream.shutdown codec

/-! ## What flushing does -/

/-- The stream after it has answered a write. -/
def wrote (event : StreamEvent) (codec : FrameCodec) : FrameCodec :=
  { codec with io.writes := codec.io.writes.tail, io.log := codec.io.log ++ [event] }

/-- How `flush` ends. -/
inductive Flushed (codec : FrameCodec) : Result Unit × FrameCodec → Prop
  | empty (nothing : codec.writeBuf = []) : Flushed codec (.ok (), codec)
  | dropped (accepted : Nat) (answer : codec.io.writes.headD .done = .stalled accepted) :
    Flushed codec (.pending, { codec.wrote (.dropped (codec.writeBuf.take accepted)) with writeBuf := [] })
  | tore (accepted : Nat) (error : IoError) (answer : codec.io.writes.headD .done = .failed accepted error) :
    Flushed codec (.err (.Io error), codec.wrote (.tore (codec.writeBuf.take accepted)))
  | wrote (answer : codec.io.writes.headD .done = .done) :
    Flushed codec (onIo Stream.flush { codec.wrote (.wrote codec.writeBuf) with writeBuf := [] })

theorem flush_flushed (codec : FrameCodec) : Flushed codec codec.flush := by
  unfold flush
  split
  next nothing => exact .empty (by simpa using nothing)
  next some =>
    simp only [onIo, Stream.writeAll]
    cases answer : codec.io.writes.headD .done with
    | done => exact .wrote answer
    | failed accepted error => exact .tore accepted error answer
    | stalled accepted => exact .dropped accepted answer

/-- A flush that succeeds, on a buffer that is not empty. -/
theorem flush_of_obliging {codec : FrameCodec} (nonempty : codec.writeBuf ≠ []) (obliging : codec.io.Obliging) :
    codec.flush = (.ok (), { codec with
      writeBuf := []
      io := { codec.io.answered with log := codec.io.log ++ [.wrote codec.writeBuf, .flushed] } }) := by
  have notEmpty : codec.writeBuf.isEmpty = false := by simpa using nonempty
  obtain ⟨writes, flushes⟩ := obliging
  rw [flush, if_neg (by rw [notEmpty]; exact Bool.false_ne_true)]
  simp only [onIo, Stream.writeAll, writes, Prod.map_apply, id, Lib.andThen_ok, Stream.flush, flushes]
  simp [Stream.answered]

theorem flush_ok_iff (codec : FrameCodec) :
    codec.flush.1 = .ok () ↔ codec.writeBuf = [] ∨ codec.io.Obliging := by
  constructor
  · intro returned
    have flushed := codec.flush_flushed
    generalize codec.flush = result at flushed returned
    cases flushed with
    | empty nothing => exact .inl nothing
    | dropped => cases returned
    | tore => cases returned
    | wrote answer =>
      apply Or.inr
      apply And.intro answer
      simp only [onIo, Stream.flush, FrameCodec.wrote] at returned
      cases answered : codec.io.flushes.headD .done with
      | done => rfl
      | failed error => rw [answered] at returned; cases returned
      | stalled => rw [answered] at returned; cases returned
  · intro condition
    by_cases empty : codec.writeBuf = []
    · simp [flush, empty]
    · rw [flush_of_obliging empty (condition.resolve_left empty)]

/-- How an operation of the stream ends that only leaves a mark in its log. -/
inductive Marked (event : StreamEvent) (codec : FrameCodec) : Result Unit × FrameCodec → Prop
  | done {io : Stream} (log : io.log = codec.io.log ++ [event]) : Marked event codec (.ok (), { codec with io })
  | failed {io : Stream} {error : IoError} (log : io.log = codec.io.log) :
    Marked event codec (.err (.Io error), { codec with io })
  | stalled {io : Stream} (log : io.log = codec.io.log) : Marked event codec (.pending, { codec with io })

theorem onIo_flush_marked (codec : FrameCodec) : Marked .flushed codec (onIo Stream.flush codec) := by
  unfold onIo Stream.flush
  cases codec.io.flushes.headD .done with
  | done => exact .done rfl
  | failed error => exact .failed rfl
  | stalled => exact .stalled rfl

theorem onIo_shutdown_marked (codec : FrameCodec) : Marked .shutDown codec (onIo Stream.shutdown codec) := by
  unfold onIo Stream.shutdown
  cases codec.io.shutdowns.headD .done with
  | done => exact .done rfl
  | failed error => exact .failed rfl
  | stalled => exact .stalled rfl

/-- The reader, the limit and the record of frames: what flushing leaves alone. -/
structure Untouched (before after : FrameCodec) : Prop where
  inner : after.inner = before.inner
  writeLimit : after.writeLimit = before.writeLimit
  queued : after.queued = before.queued

theorem Untouched.refl (codec : FrameCodec) : Untouched codec codec := ⟨rfl, rfl, rfl⟩

theorem Untouched.trans (first second third : FrameCodec) (left : Untouched first second)
    (right : Untouched second third) : Untouched first third :=
  ⟨right.inner.trans left.inner, right.writeLimit.trans left.writeLimit, right.queued.trans left.queued⟩

theorem flush_untouched (codec : FrameCodec) : Untouched codec codec.flush.2 := by
  have flushed := codec.flush_flushed
  generalize codec.flush = result at flushed ⊢
  cases flushed with
  | empty => exact .refl codec
  | dropped => exact ⟨rfl, rfl, rfl⟩
  | tore => exact ⟨rfl, rfl, rfl⟩
  | wrote => exact ⟨rfl, rfl, rfl⟩

/-- How `send` ends: the frame is appended, after a flush where the buffer is over its limit, or the flush
does not succeed. -/
inductive Sent (frame : Frame) (codec : FrameCodec) : Result Unit × FrameCodec → Prop
  | appended (fits : codec.writeBuf.length ≤ codec.writeLimit) : Sent frame codec (.ok (), codec.append frame)
  | flushed (exceeds : codec.writeLimit < codec.writeBuf.length) (flushed : codec.flush.1 = .ok ()) :
    Sent frame codec (.ok (), codec.flush.2.append frame)
  | stopped (exceeds : codec.writeLimit < codec.writeBuf.length) (stopped : codec.flush.1 ≠ .ok ()) :
    Sent frame codec codec.flush

theorem send_sent (frame : Frame) (codec : FrameCodec) : Sent frame codec (codec.send frame) := by
  unfold send
  by_cases exceeds : codec.writeBuf.length > codec.writeLimit
  · rw [if_pos exceeds]
    by_cases flushed : codec.flush.1 = .ok ()
    · rw [show codec.flush = (.ok (), codec.flush.2) from Prod.ext flushed rfl, Lib.andThen_ok]
      exact .flushed exceeds flushed
    · rw [Lib.andThen_of_ne_ok flushed]
      exact .stopped exceeds flushed
  · rw [if_neg exceeds]
    exact .appended (Nat.not_lt.mp exceeds)

end FrameCodec

end MonoioTungstenite
