import MonoioTungstenite.Read

/-! # Reading a stream

`FramedRead` decodes what is buffered before it reads more (`Serves`).  So what comes out of it is what the
bytes in front of it decode to, however they arrive (`Serves.comes`), and two sockets with the same to come out
of their readers return the same, read by read (`reads_eq`). -/

namespace MonoioTungstenite

open FrameDecoder (decodeStep incremental)

/-! ## Readers -/

/-- How a stream ends for its reader: where it does, with an error, or with silence. -/
inductive StreamEnd where
  | eof
  | failed (error : IoError)
  | quiet
  deriving DecidableEq, Repr

def StreamEnd.actions : StreamEnd → List ReadAction
  | .eof => [.eof]
  | .failed error => [.fail error]
  | .quiet => []

/-- What the reader returns at the end, with this in its buffer. -/
def StreamEnd.result (buffer : List UInt8) : StreamEnd → Result (Option Frame)
  | .eof => if buffer.isEmpty then .ok none else .err (.Io ⟨.Other⟩)
  | .failed error => .err (.Io error)
  | .quiet => .pending

section Serves

variable (width : PointerWidth) (ending : FrameDecoder → List UInt8 → StreamEnd)

/-- What a reader does when the reads of its stream bring these chunks, and then the end: it decodes what is
buffered, and reads when the decoder waits.  How it ends may depend on what the decoder has left. -/
inductive Serves : FrameDecoder → List UInt8 → List (List UInt8) → List ReadAction → Prop
  | frame {decoder after : FrameDecoder} {buffer rest : List UInt8} {chunks : List (List UInt8)}
    {script : List ReadAction} {frame : Frame} (called : decodeStep width decoder buffer = .item frame after rest)
    (later : Serves after rest chunks script) : Serves decoder buffer chunks (.decode :: script)
  | waits {decoder after : FrameDecoder} {buffer rest : List UInt8} {chunks : List (List UInt8)}
    {script : List ReadAction} (called : decodeStep width decoder buffer = .wait after rest)
    (later : Serves after rest chunks script) : Serves decoder buffer chunks (.decode :: script)
  | refused {decoder : FrameDecoder} {buffer : List UInt8} {chunks : List (List UInt8)} {script : List ReadAction}
    {stop : FrameDecoder.Stop} (called : decodeStep width decoder buffer = .fail stop) :
    Serves decoder buffer chunks (.decode :: script)
  | reads {decoder after : FrameDecoder} {buffer rest chunk : List UInt8} {chunks : List (List UInt8)}
    {script : List ReadAction} (called : decodeStep width decoder buffer = .wait after rest)
    (later : Serves decoder (buffer ++ chunk) chunks script) :
    Serves decoder buffer (chunk :: chunks) (.fill chunk :: script)
  | ends {decoder : FrameDecoder} {buffer : List UInt8} (called : decodeStep width decoder buffer = .wait decoder buffer) :
    Serves decoder buffer [] (ending decoder buffer).actions

end Serves

/-- These frames come out of a reader, and then this. -/
inductive Comes (target : Target) : FramedRead → List Frame → Result (Option Frame) → Prop
  | last {reader after : FramedRead} {last : Result (Option Frame)}
    (came : FramedRead.next target reader = (last, after)) (noFrame : ∀ frame, last ≠ .ok (some frame)) :
    Comes target reader [] last
  | frame {reader after : FramedRead} {frame : Frame} {frames : List Frame} {last : Result (Option Frame)}
    (came : FramedRead.next target reader = (.ok (some frame), after)) (later : Comes target after frames last) :
    Comes target reader (frame :: frames) last

section Comes

variable {target : Target} {reader : FramedRead} {frames : List Frame} {last : Result (Option Frame)}

theorem Comes.of_next {other : FramedRead} (comes : Comes target other frames last)
    (same : FramedRead.next target reader = FramedRead.next target other) : Comes target reader frames last := by
  cases comes with
  | last came noFrame => exact .last (same.trans came) noFrame
  | frame came later => exact .frame (same.trans came) later

/-- Every frame takes an action. -/
theorem Comes.length_le (comes : Comes target reader frames last) : frames.length ≤ reader.script.length := by
  induction comes with
  | last => exact Nat.zero_le _
  | @frame reader after frame frames last came later ih =>
    have came' := FramedRead.next_came target reader
    rw [came] at came'
    cases came' with
    | frame grown shorter => exact Nat.lt_of_le_of_lt ih shorter

end Comes

/-! ## What comes out of a reader -/

namespace FrameDecoder

theorem stepOf_item {called : Result (Decoded Frame) × FrameDecoder × List UInt8} {frame : Frame}
    {after : FrameDecoder} {rest : List UInt8} (item : stepOf called = .item frame after rest) :
    called = (.ok (.Some frame), after, rest) := by
  rcases called with ⟨(_ | _ | _) | _ | _ | _, decoder, src⟩ <;> cases item
  rfl

theorem stepOf_wait {called : Result (Decoded Frame) × FrameDecoder × List UInt8} {after : FrameDecoder}
    {rest : List UInt8} (wait : stepOf called = .wait after rest) :
    ∃ wants, (∀ frame, wants ≠ .Some frame) ∧ called = (.ok wants, after, rest) := by
  rcases called with ⟨(_ | _ | least) | _ | _ | _, decoder, src⟩ <;> cases wait
  · exact ⟨.Insufficient, fun _ => nofun, rfl⟩
  · exact ⟨.InsufficientAtLeast least, fun _ => nofun, rfl⟩

theorem stepOf_fail {called : Result (Decoded Frame) × FrameDecoder × List UInt8} {stop : Stop}
    (fail : stepOf called = .fail stop) : ∃ after rest, called = (stop.map Empty.elim, after, rest) := by
  rcases called with ⟨(_ | _ | _) | _ | _ | _, decoder, src⟩ <;> cases fail <;> exact ⟨_, _, rfl⟩

end FrameDecoder

/-- What a reader returns behind the last frame. -/
def lastOf (ending : FrameDecoder → List UInt8 → StreamEnd) :
    Lib.Rest FrameDecoder UInt8 FrameDecoder.Stop → Result (Option Frame)
  | .failed stop => stop.map Empty.elim
  | .waiting decoder buffer => (ending decoder buffer).result buffer

section Serves

variable {width : PointerWidth} {ending : FrameDecoder → List UInt8 → StreamEnd}

theorem StreamEnd.comes (last : StreamEnd) (target : Target) {reader : FramedRead}
    (script : reader.script = last.actions) (goesOn : reader.errored = false) :
    Comes target reader [] (last.result reader.buffer) := by
  have run : FramedRead.next target reader = FramedRead.run target last.actions reader := by
    rw [FramedRead.next_eq_run target goesOn, script]
  cases last with
  | failed | quiet =>
    refine .last run fun frame same => ?_
    cases same
  | eof =>
    rw [actions, FramedRead.run] at run
    rw [result]
    split at run
    next empty =>
      rw [if_pos empty]
      refine .last run fun frame same => ?_
      cases same
    next leftover =>
      rw [if_neg leftover]
      refine .last run fun frame same => ?_
      cases same

/-- A reader hands out the frames that the bytes in front of it decode to, and ends as decoding does. -/
theorem Serves.comes {decoder : FrameDecoder} {buffer : List UInt8} {chunks : List (List UInt8)}
    {script : List ReadAction} (serves : Serves width ending decoder buffer chunks script) {reader : FramedRead}
    (stands : reader.decoder = decoder ∧ reader.buffer = buffer ∧ reader.script = script)
    (goesOn : reader.errored = false) :
    Comes (.unlimited width) reader ((incremental width).drain decoder (buffer ++ chunks.flatten)).1
      (lastOf ending ((incremental width).drain decoder (buffer ++ chunks.flatten)).2) := by
  induction serves generalizing reader with
  | @frame decoder after buffer rest chunks script frame called later ih =>
    obtain ⟨rfl, rfl, starts⟩ := stands
    rw [Lib.Incremental.drain_item ((incremental width).item_append called chunks.flatten)]
    have came : FramedRead.next (.unlimited width) reader = (.ok (some frame),
        { reader with decoder := after, buffer := rest, script, history := reader.history ++ [.frame frame] }) := by
      rw [FramedRead.next_eq_run _ goesOn, starts, FramedRead.run, FrameDecoder.stepOf_item called]
    exact .frame came (ih ⟨rfl, rfl, rfl⟩ goesOn)
  | @waits decoder after buffer rest chunks script called later ih =>
    obtain ⟨rfl, rfl, starts⟩ := stands
    rw [Lib.Incremental.drain_resumed called]
    refine (@ih { reader with decoder := after, buffer := rest, script } ⟨rfl, rfl, rfl⟩ goesOn).of_next ?_
    obtain ⟨wants, nothing, run⟩ := FrameDecoder.stepOf_wait called
    rw [FramedRead.next_eq_run _ goesOn, starts, FramedRead.run, run, FramedRead.next_eq_run _ (by exact goesOn)]
    cases wants with
    | Some frame => exact absurd rfl (nothing frame)
    | Insufficient | InsufficientAtLeast => rfl
  | @refused decoder buffer chunks script stop called =>
    obtain ⟨rfl, rfl, starts⟩ := stands
    rw [Lib.Incremental.drain_fail ((incremental width).fail_append called chunks.flatten)]
    obtain ⟨after, rest, run⟩ := FrameDecoder.stepOf_fail called
    have returned : ∃ after, FramedRead.next (.unlimited width) reader = (stop.map Empty.elim, after) := by
      rw [FramedRead.next_eq_run _ goesOn, starts, FramedRead.run, run]
      cases stop with
      | ok value => exact value.elim
      | err | panic | pending => exact ⟨_, rfl⟩
    obtain ⟨_, returned⟩ := returned
    refine .last returned fun frame same => ?_
    cases stop with
    | ok value => exact value.elim
    | err | panic | pending => cases same
  | @reads decoder after buffer rest chunk chunks script called later ih =>
    obtain ⟨rfl, rfl, starts⟩ := stands
    rw [List.flatten_cons, ← List.append_assoc]
    refine (@ih { reader with buffer := reader.buffer ++ chunk, script, received := reader.received ++ chunk }
      ⟨rfl, rfl, rfl⟩ goesOn).of_next ?_
    rw [FramedRead.next_eq_run _ goesOn, starts, FramedRead.next_eq_run _ (by exact goesOn)]
    rfl
  | @ends decoder buffer called =>
    obtain ⟨rfl, rfl, starts⟩ := stands
    rw [List.flatten_nil, List.append_nil, Lib.Incremental.drain_wait called]
    exact (ending _ _).comes _ starts goesOn

/-- There is always something for a reader to do. -/
theorem exists_serves (decoder : FrameDecoder) (buffer : List UInt8) (chunks : List (List UInt8)) :
    ∃ script, Serves width ending decoder buffer chunks script := by
  cases called : decodeStep width decoder buffer with
  | item frame after rest =>
    have shrinks := (incremental width).item_shrinks called
    obtain ⟨script, later⟩ := exists_serves after rest chunks
    exact ⟨_, .frame called later⟩
  | fail stop => exact ⟨[.decode], .refused called⟩
  | wait after rest =>
    have settled := (incremental width).wait_settles called
    cases chunks with
    | nil => exact ⟨_, .waits called (.ends settled)⟩
    | cons chunk chunks =>
      obtain ⟨script, later⟩ := exists_serves after (rest ++ chunk) chunks
      exact ⟨_, .waits called (.reads settled later)⟩
termination_by (chunks.length, (incremental width).weight decoder + buffer.length)

end Serves

/-! ## Codecs that write alike -/

/-- These codecs have the same in their write buffers, and their streams answer alike. -/
structure FrameCodec.Alike (left right : FrameCodec) : Prop where
  writeBuf : right.writeBuf = left.writeBuf
  writeLimit : right.writeLimit = left.writeLimit
  writes : right.io.writes = left.io.writes
  flushes : right.io.flushes = left.io.flushes

namespace FrameCodec

theorem flush_alike {left right : FrameCodec} (alike : Alike left right) : Lib.Agree Alike left.flush right.flush := by
  unfold flush
  rw [alike.writeBuf]
  split
  next => exact ⟨rfl, fun _ _ => alike⟩
  next =>
    simp only [onIo, Stream.writeAll, alike.writes]
    cases left.io.writes.headD .done with
    | failed | stalled => exact ⟨rfl, fun _ returned => by cases returned⟩
    | done =>
      simp only [Prod.map_apply, id, Lib.andThen_ok, Stream.flush, alike.flushes]
      cases left.io.flushes.headD .done with
      | failed | stalled => exact ⟨rfl, fun _ returned => by cases returned⟩
      | done => exact ⟨rfl, fun _ _ => ⟨rfl, alike.writeLimit, rfl, rfl⟩⟩

theorem append_alike (frame : Frame) {left right : FrameCodec} (alike : Alike left right) :
    Alike (left.append frame) (right.append frame) :=
  ⟨congrArg (FrameEncoder.encode frame) alike.writeBuf, alike.writeLimit, alike.writes, alike.flushes⟩

theorem send_alike (frame : Frame) {left right : FrameCodec} (alike : Alike left right) :
    Lib.Agree Alike (left.send frame) (right.send frame) := by
  unfold send
  rw [alike.writeBuf, alike.writeLimit]
  refine Lib.Agree.andThen ?_ fun _ _ after => ⟨rfl, fun _ _ => append_alike frame after⟩
  split
  next => exact flush_alike alike
  next => exact ⟨rfl, fun _ _ => alike⟩

end FrameCodec

namespace WebSocket

/-! ## The codec of a socket -/

/-- The socket with another codec. -/
def withCodec (codec : FrameCodec) (socket : WebSocket) : WebSocket := { socket with frameCodec := codec }

section WithCodec

variable (codec : FrameCodec)

theorem doClose_withCodec (close : Option CloseFrame) (socket : WebSocket) :
    doClose close (socket.withCodec codec) = (doClose close socket).map id (withCodec codec) := by
  obtain ⟨role, frameCodec, state, incomplete, config, masks⟩ := socket
  cases state <;> rfl

theorem handleControl_withCodec (control : Control) (frame : Frame) (socket : WebSocket) :
    handleControl control frame (socket.withCodec codec) =
      (handleControl control frame socket).map id (withCodec codec) := by
  unfold handleControl
  split
  next => rfl
  next =>
    split
    next => rfl
    next =>
      cases control with
      | Close =>
        cases frame.intoClose with
        | error error => rfl
        | ok close =>
          simp only [doClose_withCodec]
          exact Lib.andThen_commutes (withCodec codec) fun _ _ => rfl
      | Reserved | Ping | Pong => rfl

theorem endFragment_withCodec (isFinal : Bool) (socket : WebSocket) :
    endFragment isFinal (socket.withCodec codec) = (endFragment isFinal socket).map id (withCodec codec) := by
  obtain ⟨role, frameCodec, state, incomplete, config, masks⟩ := socket
  unfold endFragment
  cases isFinal with
  | false => rfl
  | true =>
    cases incomplete with
    | none => rfl
    | some message =>
      simp only [withCodec, if_true]
      cases message.complete <;> rfl

theorem handleContinue_withCodec (target : Target) (frame : Frame) (socket : WebSocket) :
    handleContinue target frame (socket.withCodec codec) =
      (handleContinue target frame socket).map id (withCodec codec) := by
  obtain ⟨role, frameCodec, state, incomplete, config, masks⟩ := socket
  unfold handleContinue
  cases incomplete with
  | none => rfl
  | some message =>
    have extended := @Lib.andThen_commutes _ _ _ _ _ (withCodec codec)
      ((message.extend target frame.payload config.maxMessageSize).map id fun message =>
        (⟨role, frameCodec, state, some message, config, masks⟩ : WebSocket))
      (fun _ socket => endFragment frame.header.isFinal socket)
      (fun _ socket => endFragment_withCodec codec frame.header.isFinal socket)
    exact extended

/-- Beginning a message in pieces. -/
theorem started_withCodec (extended : Result Unit × IncompleteMessage) (socket : WebSocket) :
    Lib.andThen (extended.1, socket.withCodec codec) (fun _ socket =>
      ((.ok none, { socket with incomplete := some extended.2 }) : Result (Option Message) × WebSocket)) =
    (Lib.andThen (extended.1, socket) fun _ socket =>
      ((.ok none, { socket with incomplete := some extended.2 }) : Result (Option Message) × WebSocket)).map id
        (withCodec codec) := by
  obtain ⟨outcome, message⟩ := extended
  cases outcome <;> rfl

theorem handleFirst_withCodec (target : Target) (data : Data) (frame : Frame) (socket : WebSocket) :
    handleFirst target data frame (socket.withCodec codec) =
      (handleFirst target data frame socket).map id (withCodec codec) := by
  unfold handleFirst
  rw [show (socket.withCodec codec).config = socket.config from rfl]
  cases frame.header.isFinal with
  | false =>
    cases data with
    | Continue | Reserved => rfl
    | Text | Binary => exact started_withCodec codec _ socket
  | true =>
    cases data with
    | Continue | Reserved => rfl
    | Text =>
      cases checkMaxSize frame.payload.length socket.config.maxMessageSize with
      | error => rfl
      | ok => cases frame.intoText <;> rfl
    | Binary => cases checkMaxSize frame.payload.length socket.config.maxMessageSize <;> rfl

theorem handleData_withCodec (target : Target) (data : Data) (frame : Frame) (socket : WebSocket) :
    handleData target data frame (socket.withCodec codec) =
      (handleData target data frame socket).map id (withCodec codec) := by
  unfold handleData
  split
  next =>
    rw [handleContinue_withCodec]
    exact Lib.andThen_commutes (withCodec codec) fun _ _ => rfl
  next =>
    rw [handleFirst_withCodec, show (socket.withCodec codec).incomplete = socket.incomplete from rfl]
    split
    next => rfl
    next => exact Lib.andThen_commutes (withCodec codec) fun _ _ => rfl

theorem handleFrame_withCodec (target : Target) (frame : Frame) (socket : WebSocket) :
    handleFrame target frame (socket.withCodec codec) =
      (handleFrame target frame socket).map id (withCodec codec) := by
  unfold handleFrame
  cases frame.header.opcode with
  | Control control => exact handleControl_withCodec codec control frame socket
  | Data data => exact handleData_withCodec codec target data frame socket

/-- What a socket makes of a frame has nothing to do with its codec. -/
theorem receiveFrame_withCodec (target : Target) (frame : Frame) (socket : WebSocket) :
    receiveFrame target frame (socket.withCodec codec) =
      (receiveFrame target frame socket).map id (withCodec codec) := by
  unfold receiveFrame
  rw [handleFrame_withCodec, show (socket.withCodec codec).state = socket.state from rfl,
    show (socket.withCodec codec).role = socket.role from rfl]
  split
  next => rfl
  next =>
    split
    next => rfl
    next => split <;> rfl

theorem receiveFrame_codec (target : Target) (frame : Frame) (socket : WebSocket) :
    (receiveFrame target frame socket).2.frameCodec = socket.frameCodec :=
  congrArg (fun result => result.2.frameCodec) (receiveFrame_withCodec socket.frameCodec target frame socket)

end WithCodec

/-! ## Sockets in tandem -/

/-- Two sockets that differ in their codecs alone, which write alike and out of which the same is to come. -/
structure Tandem (target : Target) (frames : List Frame) (last : Result (Option Frame)) (left right : WebSocket) :
    Prop where
  same : right = left.withCodec right.frameCodec
  codecs : left.frameCodec.Alike right.frameCodec
  left : Comes target left.frameCodec.inner frames last
  right : Comes target right.frameCodec.inner frames last

section Tandem

variable {target : Target} {frames : List Frame} {last : Result (Option Frame)} {left right : WebSocket}

theorem Tandem.state (tandem : Tandem target frames last left right) : right.state = left.state := by
  rw [tandem.same]
  rfl

theorem Tandem.onCodec (tandem : Tandem target frames last left right) {call : FrameCodec → Result Unit × FrameCodec}
    (calls : Lib.Agree FrameCodec.Alike (call left.frameCodec) (call right.frameCodec))
    (inner : ∀ codec, (call codec).2.inner = codec.inner) :
    Lib.Agree (Tandem target frames last) (WebSocket.onCodec call left) (WebSocket.onCodec call right) := by
  refine ⟨calls.same, fun value returned => ?_⟩
  constructor
  case same =>
    show right.withCodec _ = left.withCodec _
    conv_lhs => rw [tandem.same]
    rfl
  case codecs => exact calls.after value returned
  case left =>
    show Comes target (call left.frameCodec).2.inner frames last
    rw [inner]
    exact tandem.left
  case right =>
    show Comes target (call right.frameCodec).2.inner frames last
    rw [inner]
    exact tandem.right

theorem checkConnectionReset_ok {α : Type} {state : WebSocketState} {result : Result α} {value : α}
    (returned : checkConnectionReset state result = .ok value) : result = .ok value := by
  unfold checkConnectionReset at returned
  split at returned
  next => split at returned <;> cases returned
  next => exact returned

theorem writeFrame_tandem (frame : Frame) (tandem : Tandem target frames last left right) :
    Lib.Agree (Tandem target frames last) (writeFrame frame left) (writeFrame frame right) := by
  have written : outgoing frame right = outgoing frame left := by
    rw [tandem.same]
    rfl
  have masked : Tandem target frames last { left with masks := left.masksLeft }
      { right with masks := right.masksLeft } := by
    refine ⟨?_, tandem.codecs, tandem.left, tandem.right⟩
    rw [tandem.same]
    rfl
  have sent := masked.onCodec (FrameCodec.send_alike (outgoing frame left) tandem.codecs) (send_inner _)
  have rightRun : writeFrame frame right = Prod.map (checkConnectionReset left.state) id
      (WebSocket.onCodec (FrameCodec.send (outgoing frame left)) { right with masks := right.masksLeft }) := by
    rw [← tandem.state, ← written]
    rfl
  rw [rightRun]
  exact ⟨congrArg (checkConnectionReset left.state) sent.same,
    fun value returned => sent.after value (checkConnectionReset_ok returned)⟩

theorem autoSend_tandem (reply : Option Frame) (tandem : Tandem target frames last left right) :
    Lib.Agree (Tandem target frames last) (autoSend reply left) (autoSend reply right) := by
  cases reply with
  | none => exact ⟨rfl, fun _ _ => tandem⟩
  | some frame =>
    refine (writeFrame_tandem frame tandem).andThen fun _ _ after => ?_
    exact after.onCodec (FrameCodec.flush_alike after.codecs) fun codec => codec.flush_untouched.inner

/-! ## Rounds in tandem -/

/-- Behind the last frame no read of the readers returns a message. -/
theorem readMessageFrame_last (tandem : Tandem target [] last left right) :
    Lib.Agree (fun _ _ => False) (readMessageFrame target left) (readMessageFrame target right) := by
  cases tandem.left with
  | @last _ leftAfter _ leftCame noFrame =>
    cases tandem.right with
    | @last _ rightAfter _ rightCame _ =>
      have calls : Lib.Agree (fun left right : WebSocket => right.state = left.state)
          (checkConnectionReset left.state last, left.withReader leftAfter)
          (checkConnectionReset right.state last, right.withReader rightAfter) := by
        refine ⟨?_, fun _ _ => tandem.state⟩
        rw [tandem.state]
      unfold readMessageFrame onReader
      rw [leftCame, rightCame]
      refine calls.andThen fun arrived returned _ => ?_
      cases arrived with
      | some frame => exact absurd (checkConnectionReset_ok returned) (noFrame frame)
      | none =>
        -- the end of the stream, which is an error in every state
        have state := tandem.state
        simp only [withReader_state, state]
        cases left.state <;> exact ⟨rfl, fun _ ended => by cases ended⟩

/-- The next frame is taken in alike. -/
theorem readMessageFrame_frame {frame : Frame} (tandem : Tandem target (frame :: frames) last left right) :
    Lib.Agree (Tandem target frames last) (readMessageFrame target left) (readMessageFrame target right) := by
  have alike := tandem.codecs
  cases tandem.left with
  | @frame _ leftAfter _ _ _ leftCame leftLater =>
    cases tandem.right with
    | @frame _ rightAfter _ _ _ rightCame rightLater =>
      have leftRun : readMessageFrame target left = receiveFrame target frame (left.withReader leftAfter) := by
        unfold readMessageFrame onReader
        rw [leftCame]
        rfl
      have rightRun : readMessageFrame target right =
          (receiveFrame target frame (left.withReader leftAfter)).map id
            (withCodec { right.frameCodec with inner := rightAfter }) := by
        rw [← receiveFrame_withCodec]
        unfold readMessageFrame onReader
        rw [rightCame]
        conv_lhs => rw [tandem.same]
        rfl
      rw [leftRun, rightRun]
      refine ⟨rfl, fun _ _ => ?_⟩
      have codec := receiveFrame_codec target frame (left.withReader leftAfter)
      constructor
      case same => rfl
      case codecs =>
        rw [codec]
        exact ⟨alike.writeBuf, alike.writeLimit, alike.writes, alike.flushes⟩
      case left =>
        rw [codec]
        exact leftLater
      case right => exact rightLater

theorem readRound_last (tandem : Tandem target [] last left right) :
    Lib.Agree (fun _ _ => False) (readRound target left) (readRound target right) :=
  (readMessageFrame_last tandem).andThen fun _ _ never => never.elim

theorem readRound_frame {frame : Frame} (tandem : Tandem target (frame :: frames) last left right) :
    Lib.Agree (Tandem target frames last) (readRound target left) (readRound target right) := by
  unfold readRound
  refine (readMessageFrame_frame tandem).andThen fun handled _ after => ?_
  exact (autoSend_tandem handled.2 after).andThen fun _ _ sent => ⟨rfl, fun _ _ => sent⟩

/-- Every round takes a frame, until there is none left. -/
theorem readLoop_tandem {fuel other : Nat} (tandem : Tandem target frames last left right)
    (enough : frames.length < fuel) (enoughToo : frames.length < other) :
    Lib.Agree (fun left right => ∃ rest, Tandem target rest last left right) (readLoop target fuel left)
      (readLoop target other right) := by
  induction frames generalizing fuel other left right with
  | nil =>
    obtain ⟨fuel, rfl⟩ := Nat.exists_eq_succ_of_ne_zero (Nat.ne_zero_of_lt enough)
    obtain ⟨other, rfl⟩ := Nat.exists_eq_succ_of_ne_zero (Nat.ne_zero_of_lt enoughToo)
    exact (readRound_last tandem).andThen fun _ _ never => never.elim
  | cons frame frames ih =>
    obtain ⟨fuel, rfl⟩ := Nat.exists_eq_succ_of_ne_zero (Nat.ne_zero_of_lt enough)
    obtain ⟨other, rfl⟩ := Nat.exists_eq_succ_of_ne_zero (Nat.ne_zero_of_lt enoughToo)
    refine (readRound_frame tandem).andThen fun message _ after => ?_
    cases message with
    | some message => exact ⟨rfl, fun _ _ => ⟨frames, after⟩⟩
    | none => exact ih after (Nat.lt_of_succ_lt_succ enough) (Nat.lt_of_succ_lt_succ enoughToo)

theorem read_tandem (tandem : Tandem target frames last left right) :
    Lib.Agree (fun left right => ∃ rest, Tandem target rest last left right) (read target left) (read target right) := by
  have role : right.role = left.role := by
    rw [tandem.same]
    rfl
  unfold read
  rw [tandem.state, role]
  split
  next => exact ⟨rfl, fun _ returned => by cases returned⟩
  next =>
    split
    next => exact ⟨rfl, fun _ returned => by cases returned⟩
    next =>
      exact readLoop_tandem tandem (Nat.lt_succ_of_le tandem.left.length_le) (Nat.lt_succ_of_le tandem.right.length_le)

end Tandem

/-! ## Successive reads -/

/-- The reader of the socket works off its actions when the reads of the stream bring these chunks. -/
def ServedBy (width : PointerWidth) (ending : FrameDecoder → List UInt8 → StreamEnd) (chunks : List (List UInt8))
    (socket : WebSocket) : Prop :=
  Serves width ending socket.frameCodec.inner.decoder socket.frameCodec.inner.buffer chunks
    socket.frameCodec.inner.script

/-- What the environment answers during a read, next to what there is to read. -/
structure ReadAnswers where
  writes : List WriteOutcome
  flushes : List IoOutcome
  shutdowns : List IoOutcome
  masks : List Mask

/-- A read by a reader that goes on where it stands. -/
def readOn (target : Target) (answers : ReadAnswers) (socket : WebSocket) : Reply × WebSocket :=
  step target socket
    ⟨.read, socket.frameCodec.inner.script, answers.writes, answers.flushes, answers.shutdowns, answers.masks⟩

/-- What successive reads return, up to the first that does not return a message. -/
def reads (target : Target) : List ReadAnswers → WebSocket → List Reply
  | [], _ => []
  | answers :: more, socket =>
    match readOn target answers socket with
    | (.ok message, after) => .ok message :: reads target more after
    | (stopped, _) => [stopped]

/-- Two sockets between reads, that differ in their codecs alone: the same is in their write buffers, and the same is
to come out of their readers. -/
structure Twins (target : Target) (frames : List Frame) (last : Result (Option Frame)) (left right : WebSocket) :
    Prop where
  same : right = left.withCodec right.frameCodec
  writeBuf : right.frameCodec.writeBuf = left.frameCodec.writeBuf
  writeLimit : right.frameCodec.writeLimit = left.frameCodec.writeLimit
  left : Comes target left.frameCodec.inner frames last
  right : Comes target right.frameCodec.inner frames last

variable {target : Target} {frames : List Frame} {last : Result (Option Frame)} {left right : WebSocket}

theorem readOn_twins (twins : Twins target frames last left right) (answers : ReadAnswers) :
    Lib.Agree (fun left right => ∃ rest, Twins target rest last left right) (readOn target answers left)
      (readOn target answers right) := by
  let installed (socket : WebSocket) : WebSocket := install
    ⟨.read, socket.frameCodec.inner.script, answers.writes, answers.flushes, answers.shutdowns, answers.masks⟩ socket
  have tandem : Tandem target frames last (installed left) (installed right) := by
    refine ⟨?_, ⟨twins.writeBuf, twins.writeLimit, rfl, rfl⟩, twins.left, twins.right⟩
    conv_lhs => rw [twins.same]
    rfl
  have agree := read_tandem tandem
  refine ⟨congrArg (Lib.Outcome.map some) agree.same, fun reply returned => ?_⟩
  obtain ⟨message, read, _⟩ : ∃ message, (read target (installed left)).1 = .ok message ∧ some message = reply := by
    change Lib.Outcome.map some (read target (installed left)).1 = .ok reply at returned
    cases outcome : (read target (installed left)).1 <;> rw [outcome] at returned <;> cases returned
    exact ⟨_, rfl, rfl⟩
  obtain ⟨rest, after⟩ := agree.after message read
  exact ⟨rest, after.same, after.codecs.writeBuf, after.codecs.writeLimit, after.left, after.right⟩

/-- Twins return the same, read by read. -/
theorem reads_eq (twins : Twins target frames last left right) (answers : List ReadAnswers) :
    reads target answers left = reads target answers right := by
  induction answers generalizing frames left right with
  | nil => rfl
  | cons first more ih =>
    obtain ⟨same, after⟩ := readOn_twins twins first
    rw [reads, reads]
    generalize readOn target first left = leftRun at same after
    generalize readOn target first right = rightRun at same after
    obtain ⟨outcome, left⟩ := leftRun
    obtain ⟨_, right⟩ := rightRun
    obtain rfl := same
    cases outcome with
    | ok message =>
      obtain ⟨rest, after⟩ := after message rfl
      exact congrArg (List.cons _) (ih after)
    | err | panic | pending => rfl

end WebSocket

end MonoioTungstenite
