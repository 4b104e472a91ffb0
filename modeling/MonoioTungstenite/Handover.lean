import MonoioTungstenite.RoundTrip

/-! # A reader in front of encoded frames

A reader whose stream is a beginning of the encoding of some frames hands out these frames, one after the other
and without their masks, wherever the stream is cut (`next_between`).  When all of their bytes are there and the
decoder has no frame left, it has handed out all of them (`Between.nothing_ahead`). -/

namespace MonoioTungstenite

open FrameDecoder (Expects)

/-- The bytes tell where a header ends. -/
theorem FrameHeader.HeaderBytes.append_inj {left right : HeaderBytes} {behind other : List UInt8}
    (same : left.toList ++ behind = right.toList ++ other) : left = right ∧ behind = other := by
  obtain ⟨first, second, lengthField, maskField, wholeLength, wholeMask⟩ := left
  obtain ⟨first', second', lengthField', maskField', wholeLength', wholeMask'⟩ := right
  simp only [toList, List.cons_append, List.nil_append, List.append_assoc, List.cons.injEq] at same
  obtain ⟨rfl, rfl, same⟩ := same
  obtain ⟨rfl, masked⟩ := List.append_inj same (wholeLength.trans wholeLength'.symm)
  obtain ⟨rfl, rfl⟩ := List.append_inj masked (wholeMask.trans wholeMask'.symm)
  exact ⟨rfl, rfl⟩

/-- A frame that comes out of a decoder as it was sent. -/
structure FrameDecoder.Welcomes (width : PointerWidth) (decoder : FrameDecoder) (frame : Frame) : Prop where
  known : frame.header.opcode.isReserved = false
  takes : Takes (.unlimited width) decoder.maxFrameSize frame.payload.length
  expected : Expects decoder.unmask decoder.acceptUnmasked frame

theorem FrameDecoder.Welcomes.congr {width : PointerWidth} {before after : FrameDecoder} {frame : Frame}
    (welcomes : before.Welcomes width frame) (config : SameConfig before after) : after.Welcomes width frame := by
  obtain ⟨unmasking, maxFrameSize⟩ := config
  injection unmasking with unmask acceptUnmasked
  constructor
  case known => exact welcomes.known
  case takes =>
    rw [maxFrameSize]
    exact welcomes.takes
  case expected =>
    rw [unmask, acceptUnmasked]
    exact welcomes.expected

/-- The header of a frame as it stands on the wire. -/
def Frame.headerBytes (frame : Frame) : FrameHeader.HeaderBytes := frame.header.encodedBytes frame.payload.length

theorem Frame.encoded_eq (frame : Frame) : frame.encoded = frame.headerBytes.toList ++ frame.wirePayload := rfl

/-- The reader has handed out the frames behind it, and has the rest of what it has received in its buffer, or
the decoder has taken the header of the next frame. -/
inductive Between (reader : FramedRead) (behind : List Frame) : List Frame → Prop
  | fresh {ahead : List Frame} (goesOn : reader.errored = false) (idle : reader.decoder.header = none)
    (received : reader.received = encodeAll behind ++ reader.buffer) : Between reader behind ahead
  | pending {frame : Frame} {ahead : List Frame} (goesOn : reader.errored = false)
    (held : reader.decoder.header = some (frame.header, frame.payload.length))
    (received : reader.received = encodeAll behind ++ (frame.headerBytes.toList ++ reader.buffer)) :
    Between reader behind (frame :: ahead)

/-- How a call of the decoder ends, between frames. -/
inductive DecodedBetween (reader : FramedRead) (behind ahead : List Frame) :
    Result (Decoded Frame) × FrameDecoder × List UInt8 → Prop
  | waits {wants : Decoded Frame} {decoder : FrameDecoder} {buffer : List UInt8}
    (nothing : ∀ frame, wants ≠ .Some frame) (between : Between { reader with decoder, buffer } behind ahead)
    (config : SameConfig reader.decoder decoder)
    (short : reader.received = encodeAll (behind ++ ahead) → ahead = []) :
    DecodedBetween reader behind ahead (.ok wants, decoder, buffer)
  | frame {frame : Frame} {later : List Frame} {decoder : FrameDecoder} {buffer : List UInt8}
    (first : ahead = frame :: later) (between : Between { reader with decoder, buffer } (behind ++ [frame]) later)
    (config : SameConfig reader.decoder decoder) :
    DecodedBetween reader behind ahead (.ok (.Some frame.unmasked), decoder, buffer)

theorem Between.goesOn {reader : FramedRead} {behind ahead : List Frame} (between : Between reader behind ahead) :
    reader.errored = false := by
  cases between with
  | fresh goesOn | pending goesOn => exact goesOn

/-- More frames behind those that are ahead change nothing for the reader. -/
theorem Between.more {reader : FramedRead} {behind ahead : List Frame} (between : Between reader behind ahead)
    (sent : List Frame) : Between reader behind (ahead ++ sent) := by
  cases between with
  | fresh goesOn idle received => exact .fresh goesOn idle received
  | pending goesOn held received => exact .pending goesOn held received

/-- Only the pending header, the buffer, the error and the record of what was received count. -/
theorem Between.congr {reader other : FramedRead} {behind ahead : List Frame} (between : Between reader behind ahead)
    (header : other.decoder.header = reader.decoder.header) (buffer : other.buffer = reader.buffer)
    (errored : other.errored = reader.errored) (same : other.received = reader.received) :
    Between other behind ahead := by
  cases between with
  | fresh goesOn idle received =>
    exact .fresh (errored.trans goesOn) (header.trans idle) (by rw [same, received, buffer])
  | pending goesOn held received =>
    exact .pending (errored.trans goesOn) (header.trans held) (by rw [same, received, buffer])

/-- A reader that has received nothing has handed out nothing. -/
theorem Between.nothing_behind {reader : FramedRead} {behind ahead : List Frame} (between : Between reader behind ahead)
    (unread : reader.received = []) : behind = [] := by
  cases behind with
  | nil => rfl
  | cons frame later =>
    cases between with
    | fresh _ _ received | pending _ _ received =>
      rw [unread, encodeAll_cons, Frame.encoded_eq] at received
      cases received

/-- In front of nothing the reader holds nothing back. -/
theorem Between.emptied {reader : FramedRead} {behind : List Frame} (between : Between reader behind [])
    (part : reader.received <+: encodeAll behind) : reader.decoder.header = none ∧ reader.buffer = [] := by
  generalize nothing : ([] : List Frame) = ahead at between
  cases between with
  | pending => cases nothing
  | fresh _ idle received =>
    obtain ⟨rest, whole⟩ := part
    rw [received, List.append_assoc, List.append_right_eq_self] at whole
    exact ⟨idle, (List.append_eq_nil_iff.mp whole).1⟩

theorem decodePayload_between {width : PointerWidth} {reader : FramedRead} {behind later : List Frame}
    {frame : Frame} {decoder : FrameDecoder} {src unseen : List UInt8}
    (goesOn : reader.errored = false) (welcomes : decoder.Welcomes width frame)
    (held : decoder.header = some (frame.header, frame.payload.length))
    (received : reader.received = encodeAll behind ++ (frame.headerBytes.toList ++ src))
    (stream : src ++ unseen = frame.wirePayload ++ encodeAll later)
    (config : SameConfig reader.decoder decoder) :
    DecodedBetween reader behind (frame :: later) (decoder.decodePayload src) := by
  have finishes : { decoder with header := none }.finish frame.header frame.wirePayload = .ok frame.unmasked :=
    FrameDecoder.finish_wirePayload welcomes.expected
  have decoded := FrameDecoder.decodePayload_decoded held src
  generalize decoder.decodePayload src = result at decoded
  cases decoded with
  | short short =>
    refine .waits (fun _ => nofun) (.pending goesOn held received) config fun whole => ?_
    -- all of the payload would be there
    have lengths := congrArg List.length (received.symm.trans whole)
    simp only [encodeAll_append, encodeAll_cons, Frame.encoded_eq, List.length_append,
      Frame.length_wirePayload] at lengths
    omega
  | @frame payload rest finished split length made =>
    rw [split, List.append_assoc] at stream
    obtain ⟨rfl, _⟩ := List.append_inj stream (length.trans frame.length_wirePayload.symm)
    obtain rfl : frame.unmasked = finished := Except.ok.inj (finishes.symm.trans made)
    refine .frame rfl (.fresh goesOn rfl ?_) ⟨config.unmasking, config.maxFrameSize⟩
    rw [received, split, encodeAll_append, encodeAll_cons, encodeAll_nil, Frame.encoded_eq]
    simp only [List.append_assoc, List.append_nil]
  | @refused payload rest split length made =>
    rw [split, List.append_assoc] at stream
    obtain ⟨rfl, _⟩ := List.append_inj stream (length.trans frame.length_wirePayload.symm)
    cases finishes.symm.trans made

theorem decode_between (width : PointerWidth) {reader : FramedRead} {behind ahead : List Frame}
    (between : Between reader behind ahead) (part : reader.received <+: encodeAll (behind ++ ahead))
    (welcomes : ∀ frame ∈ ahead, reader.decoder.Welcomes width frame) :
    DecodedBetween reader behind ahead (reader.decoder.decode (.unlimited width) reader.buffer) := by
  obtain ⟨unseen, stream⟩ := part
  rw [encodeAll_append] at stream
  cases between with
  | @pending frame later goesOn held received =>
    rw [received, List.append_assoc, List.append_assoc, List.append_cancel_left_eq, encodeAll_cons, Frame.encoded_eq,
      List.append_assoc, List.append_cancel_left_eq] at stream
    rw [FrameDecoder.decode_pending held]
    exact decodePayload_between goesOn (welcomes frame List.mem_cons_self) held received stream ⟨rfl, rfl⟩
  | fresh goesOn idle received =>
    rw [received, List.append_assoc, List.append_cancel_left_eq] at stream
    by_cases cut : FrameHeader.IsCut reader.buffer
    · rw [FrameDecoder.decode_cut idle cut, Target.unlimited_reserveFails, if_neg Bool.false_ne_true]
      refine .waits (fun _ => nofun) (.fresh goesOn idle received) ⟨rfl, rfl⟩ fun whole => ?_
      rw [received, encodeAll_append, List.append_cancel_left_eq] at whole
      cases ahead with
      | nil => rfl
      | cons frame later =>
        -- the header of the next frame would be there
        have parsed := FrameHeader.parse_cut ⟨reader.buffer, 0⟩ cut
        rw [encodeAll_cons, Frame.encoded_eq, List.append_assoc] at whole
        rw [FrameHeader.parse_whole ⟨reader.buffer, 0⟩ whole] at parsed
        split at parsed <;> cases parsed
    · obtain ⟨head, rest, split⟩ := FrameHeader.exists_whole cut
      rw [split] at stream received ⊢
      cases ahead with
      | nil => exact absurd (congrArg List.length stream) (by simp [FrameHeader.HeaderBytes.toList])
      | cons frame later =>
        have welcome := welcomes frame List.mem_cons_self
        rw [encodeAll_cons, Frame.encoded_eq, List.append_assoc, List.append_assoc] at stream
        obtain ⟨rfl, payload⟩ := FrameHeader.HeaderBytes.append_inj stream
        have opcode := FrameHeader.opcode_encodedBytes welcome.known frame.payload.length
        have long : frame.payload.length < 2 ^ 64 := by
          have bound := welcome.takes.1
          have widest : (Target.unlimited width).usizeMax < 2 ^ 64 := by cases width <;> decide
          omega
        rw [FrameDecoder.decode_whole idle, Frame.headerBytes, opcode, if_neg (by simp [welcome.known]),
          FrameHeader.header_encodedBytes welcome.known, FrameHeader.length_encodedBytes _ long,
          FrameDecoder.startFrame_takes welcome.takes]
        exact decodePayload_between goesOn ⟨welcome.known, welcome.takes, welcome.expected⟩ rfl received payload ⟨rfl, rfl⟩

/-! ## The reader -/

/-- More bytes in the buffer, and no frame between them. -/
theorem Between.filled {reader : FramedRead} {behind ahead : List Frame} (between : Between reader behind ahead)
    (more : List UInt8) (script : List ReadAction) :
    Between { reader with buffer := reader.buffer ++ more, script, received := reader.received ++ more } behind ahead := by
  cases between with
  | fresh goesOn idle received => exact .fresh goesOn idle (by simp [received])
  | pending goesOn held received => exact .pending goesOn held (by simp [received])

/-- How a call of the reader returns, between frames: it hands out the next one, or none at the end of the stream, where
bytes that are left over are an error. -/
inductive CameBetween (reader : FramedRead) (behind ahead : List Frame) : Result (Option Frame) × FramedRead → Prop
  | eof {after : FramedRead} (asked : .eof ∈ reader.script) (between : Between after behind ahead)
    (config : SameConfig reader.decoder after.decoder) : CameBetween reader behind ahead (.ok none, after)
  | torn {error : IoError} {after : FramedRead} (asked : .eof ∈ reader.script)
    (between : Between { after with errored := false } behind ahead)
    (config : SameConfig reader.decoder after.decoder) (leftover : after.buffer ≠ []) :
    CameBetween reader behind ahead (.err (.Io error), after)
  | frame {frame : Frame} {later : List Frame} {after : FramedRead} (first : ahead = frame :: later)
    (between : Between after (behind ++ [frame]) later) (config : SameConfig reader.decoder after.decoder) :
    CameBetween reader behind ahead (.ok (some frame.unmasked), after)

theorem CameBetween.behind {first reader : FramedRead} {behind ahead : List Frame}
    {result : Result (Option Frame) × FramedRead} (came : CameBetween reader behind ahead result)
    (config : SameConfig first.decoder reader.decoder) (script : reader.script ⊆ first.script) :
    CameBetween first behind ahead result := by
  cases came with
  | eof asked between same => exact .eof (script asked) between (config.trans same)
  | torn asked between same leftover => exact .torn (script asked) between (config.trans same) leftover
  | frame frame between same => exact .frame frame between (config.trans same)

namespace FramedRead

theorem run_between (width : PointerWidth) {script : List ReadAction} (fromWire : FromWire script)
    (unfailing : Unfailing script) {reader : FramedRead} (starts : reader.script = script) {behind ahead : List Frame}
    (between : Between reader behind ahead)
    (part : (run (.unlimited width) script reader).2.received <+: encodeAll (behind ++ ahead))
    (returns : (run (.unlimited width) script reader).1 ≠ .pending)
    (welcomes : ∀ frame ∈ ahead, reader.decoder.Welcomes width frame) :
    CameBetween reader behind ahead (run (.unlimited width) script reader) := by
  induction script generalizing reader with
  | nil => exact absurd rfl returns
  | cons action script ih =>
    have fewer : script ⊆ reader.script := by
      rw [starts]
      exact List.subset_cons_self action script
    cases action with
    | frame frame => exact absurd List.mem_cons_self (fromWire frame)
    | eof =>
      have asked : .eof ∈ reader.script := by
        rw [starts]
        exact List.mem_cons_self
      rw [run]
      split
      next => exact .eof asked (between.congr rfl rfl rfl rfl) ⟨rfl, rfl⟩
      next leftover =>
        refine .torn asked (between.congr rfl rfl between.goesOn.symm rfl) ⟨rfl, rfl⟩ fun empty => leftover ?_
        exact List.isEmpty_iff.mpr empty
    | fail error => exact absurd List.mem_cons_self (unfailing error)
    | fill chunk =>
      have filled := between.filled chunk script
      exact (ih fromWire.tail unfailing.tail rfl filled part returns welcomes).behind ⟨rfl, rfl⟩ fewer
    | decode =>
      have seen := (run_received (.unlimited width) (.decode :: script) reader).trans part
      have decoded := decode_between width between seen welcomes
      rw [run] at part returns ⊢
      generalize reader.decoder.decode (.unlimited width) reader.buffer = result at decoded part returns ⊢
      cases decoded with
      | frame first between config => exact .frame first (between.congr rfl rfl rfl rfl) config
      | @waits wants decoder buffer nothing stillBetween config short =>
        have goesOn : Between { reader with decoder, buffer, script } behind ahead := stillBetween.congr rfl rfl rfl rfl
        have stillWelcomes : ∀ frame ∈ ahead, decoder.Welcomes width frame :=
          fun frame found => (welcomes frame found).congr config
        cases wants with
        | Some frame => exact absurd rfl (nothing frame)
        | Insufficient => exact (ih fromWire.tail unfailing.tail rfl goesOn part returns stillWelcomes).behind config fewer
        | InsufficientAtLeast least => exact (ih fromWire.tail unfailing.tail rfl goesOn part returns stillWelcomes).behind config fewer

/-- What comes out of a reader in front of encoded frames is the next of these frames. -/
theorem next_between (width : PointerWidth) {reader : FramedRead} (fromWire : FromWire reader.script)
    (unfailing : Unfailing reader.script) {behind ahead : List Frame} (between : Between reader behind ahead)
    (part : (next (.unlimited width) reader).2.received <+: encodeAll (behind ++ ahead))
    (returns : (next (.unlimited width) reader).1 ≠ .pending)
    (welcomes : ∀ frame ∈ ahead, reader.decoder.Welcomes width frame) :
    CameBetween reader behind ahead (next (.unlimited width) reader) := by
  rw [next_eq_run _ between.goesOn] at part returns ⊢
  exact run_between width fromWire unfailing rfl between part returns welcomes

/-- The decoder finds no frame in what is in the buffer. -/
def Drained (width : PointerWidth) (reader : FramedRead) : Prop :=
  ∀ frame, (reader.decoder.decode (.unlimited width) reader.buffer).1 ≠ .ok (.Some frame)

end FramedRead

/-- When all bytes have been received, and the decoder finds no frame in the buffer, nothing is ahead. -/
theorem Between.nothing_ahead {width : PointerWidth} {reader : FramedRead} {behind ahead : List Frame}
    (between : Between reader behind ahead) (whole : reader.received = encodeAll (behind ++ ahead))
    (drained : reader.Drained width) (welcomes : ∀ frame ∈ ahead, reader.decoder.Welcomes width frame) :
    ahead = [] := by
  have decoded := decode_between width between (whole ▸ List.prefix_refl _) welcomes
  rw [FramedRead.Drained] at drained
  generalize reader.decoder.decode (.unlimited width) reader.buffer = result at decoded drained
  cases decoded with
  | waits nothing between config short => exact short whole
  | frame first between config => exact absurd rfl (drained _)

end MonoioTungstenite
