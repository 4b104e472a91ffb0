import MonoioTungstenite.RoundTrip
import MonoioTungstenite.Uses

/-! # The limit of the write buffer

`send` looks at the buffer before it encodes the frame: it flushes what is over the limit, and then appends the
frame, however long it is.  So the buffer is within its limit after a write exactly if the frame fits behind
what was left there (`write_within_iff`). -/

namespace MonoioTungstenite

namespace FrameCodec

theorem use_writeLimit (codec : FrameCodec) (use : Use) : (codec.use use).2.writeLimit = codec.writeLimit := by
  have flushed := codec.flush_untouched.writeLimit
  cases use with
  | flush => exact flushed
  | close => exact (Lib.andThen_keeps FrameCodec.writeLimit fun _ _ => rfl).trans flushed
  | send frame =>
    show (codec.send frame).2.writeLimit = _
    have sent := codec.send_sent frame
    generalize codec.send frame = result at sent
    cases sent with
    | appended => rfl
    | flushed | stopped => exact flushed

theorem useAll_writeLimit (uses : List Use) (codec : FrameCodec) :
    (useAll uses codec).2.writeLimit = codec.writeLimit := by
  induction uses generalizing codec with
  | nil => rfl
  | cons use uses ih =>
    have first := codec.use_writeLimit use
    have kept := @Lib.andThen_keeps _ _ _ _ _ _ FrameCodec.writeLimit (codec.use use) (fun _ codec => useAll uses codec)
      fun _ codec => ih codec
    exact kept.trans first

/-- How many bytes are still in the buffer when `send` appends a frame, on a stream that does what it is asked. -/
def carried (codec : FrameCodec) : Nat := if codec.writeLimit < codec.writeBuf.length then 0 else codec.writeBuf.length

theorem send_length {codec : FrameCodec} (calm : codec.io.Calm) (frame : Frame) :
    (codec.send frame).2.writeBuf.length = codec.carried + frame.len := by
  have appended : ∀ codec : FrameCodec, (codec.append frame).writeBuf.length = codec.writeBuf.length + frame.len := by
    intro codec
    rw [append, FrameEncoder.encode_eq, List.length_append, frame.length_encoded]
  obtain ⟨flushed, empty⟩ := flush_calm calm
  have sent := codec.send_sent frame
  generalize codec.send frame = result at sent
  rw [carried]
  cases sent with
  | appended fits =>
    rw [if_neg (by omega)]
    exact appended codec
  | flushed exceeds => rw [if_pos exceeds, appended, empty, List.length_nil]
  | stopped exceeds stopped => exact absurd flushed.returned stopped

end FrameCodec

namespace WebSocket

/-- Every answer of the stream to the call is that the operation is done. -/
def Call.Calm (call : Call) : Prop :=
  (∀ answer ∈ call.writes, answer = .done) ∧ (∀ answer ∈ call.flushes, answer = .done) ∧
    ∀ answer ∈ call.shutdowns, answer = .done

/-- A call that brings no answers along is calm. -/
theorem Call.calm_of_nil {call : Call} (writes : call.writes = []) (flushes : call.flushes = [])
    (shutdowns : call.shutdowns = []) : call.Calm := by
  simp [Call.Calm, writes, flushes, shutdowns]

theorem Call.Calm.installed {call : Call} (calm : call.Calm) (socket : WebSocket) :
    (install call socket).frameCodec.io.Calm := ⟨calm.1, calm.2.1, calm.2.2⟩

/-- The frame for the message fits into the buffer, behind what stays there; a close frame is flushed. -/
def FitsBuffer (message : Message) (socket : WebSocket) : Prop :=
  ∀ frame, frameOf message = some frame →
    socket.frameCodec.carried + (outgoing frame socket).len ≤ socket.frameCodec.writeLimit

theorem write_active {message : Message} {socket : WebSocket} (returned : (write message socket).1 = .ok ()) :
    socket.state = .Active := by
  unfold write at returned
  cases state : socket.state with
  | Active => rfl
  | _ =>
    rw [state] at returned
    cases returned

/-- What a write that succeeds leaves in the buffer. -/
theorem write_within_buffer {message : Message} {socket : WebSocket} (calm : socket.frameCodec.io.Calm)
    (returned : (write message socket).1 = .ok ()) :
    (write message socket).2.frameCodec.writeBuf.length ≤ socket.frameCodec.writeLimit ↔
      FitsBuffer message socket := by
  have active := write_active returned
  rw [write_uses]
  cases made : frameOf message with
  | none =>
    cases message with
    -- a close frame is flushed at once, whatever its length
    | Close code =>
      have empty := FrameCodec.useAll_calm_flushed calm [.send (outgoing (Frame.close code) socket)] (.inl rfl)
      rw [writeUses_close active]
      apply iff_of_true
      · rw [← List.singleton_append, empty]
        exact Nat.zero_le _
      · intro frame some
        rw [made] at some
        cases some
    | _ => cases made
  | some frame =>
    have fits : FitsBuffer message socket ↔
        socket.frameCodec.carried + (outgoing frame socket).len ≤ socket.frameCodec.writeLimit := by
      constructor
      · intro fits
        exact fits frame made
      · intro within other some
        rw [made] at some
        cases some
        exact within
    rw [fits, ← FrameCodec.send_length calm, writeUses_of_frame active made, FrameCodec.useAll_single]
    rfl

/-- A run of writes keeps the limit that the socket was configured with. -/
theorem reached_writeLimit (target : Target) (stream : Stream) (role : Role) (config : Option WebSocketConfig)
    {calls : List Call} (writes : ∀ call ∈ calls, ∃ message, call.op = .write message) :
    (reached target stream role config calls).frameCodec.writeLimit = (config.getD .default).writeBufferSize := by
  have kept : ∀ (socket : WebSocket) (call : Call), (∃ message, call.op = .write message) →
      (step target socket call).2.frameCodec.writeLimit = socket.frameCodec.writeLimit := by
    intro socket call isWrite
    obtain ⟨message, op⟩ := isWrite
    rw [step, op]
    show (write message (install call socket)).2.frameCodec.writeLimit = _
    rw [write_uses, FrameCodec.useAll_writeLimit]
    rfl
  suffices same : ∀ socket : WebSocket, socket.frameCodec.writeLimit = (config.getD .default).writeBufferSize →
      (Lib.final (step target) socket calls).frameCodec.writeLimit = (config.getD .default).writeBufferSize from
    same _ rfl
  induction calls with
  | nil => exact fun socket same => same
  | cons call calls ih =>
    rw [List.forall_mem_cons] at writes
    intro socket same
    exact ih writes.2 _ ((kept socket call writes.1).trans same)

/-- In a run of writes, on a stream that does what it is asked, a write that has returned `Ok` leaves no more
than the limit in the buffer exactly if its frame fits there. -/
theorem write_within_iff (target : Target) (stream : Stream) (role : Role) (config : Option WebSocketConfig)
    (calls : List Call) (writes : ∀ call ∈ calls, ∃ message, call.op = .write message) {call : Call}
    {message : Message} (isWrite : call.op = .write message) (calm : call.Calm)
    (returned : (step target (reached target stream role config calls) call).1 = .ok none) :
    (step target (reached target stream role config calls) call).2.frameCodec.writeBuf.length ≤
        (config.getD .default).writeBufferSize ↔
      FitsBuffer message (install call (reached target stream role config calls)) := by
  have limit := reached_writeLimit target stream role config writes
  generalize reached target stream role config calls = socket at returned limit ⊢
  rw [step, isWrite] at returned ⊢
  have replied : (write message (install call socket)).1.map (fun _ => (none : Option Message)) = .ok none := returned
  have succeeded : (write message (install call socket)).1 = .ok () := by
    cases outcome : (write message (install call socket)).1 with
    | ok => rfl
    | _ => rw [outcome] at replied; cases replied
  rw [← limit]
  exact write_within_buffer (calm.installed socket) succeeded

/-- A limit of six bytes, enough for two pings of one byte. -/
def smallBuffer : Option WebSocketConfig := some { WebSocketConfig.default with writeBufferSize := 6 }

theorem write_within_iff_secondPing :
    (step (.unlimited .w64) (reached (.unlimited .w64) .new .Server smallBuffer [.reading (.write (.Ping [1])) []])
        (.reading (.write (.Ping [2])) [])).2.frameCodec.writeBuf.length ≤ 6 ↔
      FitsBuffer (.Ping [2]) (install (.reading (.write (.Ping [2])) [])
        (reached (.unlimited .w64) .new .Server smallBuffer [.reading (.write (.Ping [1])) []])) :=
  write_within_iff _ _ _ smallBuffer _ (fun call found => ⟨.Ping [1], by rw [List.mem_singleton.mp found]; rfl⟩) rfl
    ⟨nofun, nofun, nofun⟩ (by decide)

/-- A server that is told to write each message eagerly. -/
def noBuffer : Option WebSocketConfig := some { WebSocketConfig.default with writeBufferSize := 0 }

/-- The message is still in the buffer when its write has returned. -/
theorem not_withinLimit_noBuffer :
    (step (.unlimited .w64) (reached (.unlimited .w64) .new .Server noBuffer []) (.reading (.write (.Ping [1])) [])).1 =
      .ok none ∧
    ¬ (step (.unlimited .w64) (reached (.unlimited .w64) .new .Server noBuffer [])
      (.reading (.write (.Ping [1])) [])).2.frameCodec.writeBuf.length ≤ 0 := by
  decide

end WebSocket

end MonoioTungstenite
