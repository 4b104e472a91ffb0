import MonoioTungstenite.Framing
import MonoioTungstenite.Lib.Run

/-! # Where frames begin

A decoder that is called again and again, also after an error, while bytes arrive in between.  As long as
every header declares a length that the decoder takes, the bytes it has not consumed begin a frame, or the
payload of the frame whose header is pending (`boundaries_known`).  A frame that is too long is where this
ends: its header is gone and its payload is still there (`not_boundariesKnown_tooLong`). -/

namespace MonoioTungstenite

open FrameHeader (HeaderBytes)

/-- The start of a stream, or the end of a frame as delimited by its declared length. -/
inductive Boundary : List UInt8 → Prop
  | start : Boundary []
  | next {before payload : List UInt8} {head : HeaderBytes} (reached : Boundary before)
    (whole : payload.length = head.length) : Boundary (before ++ (head.toList ++ payload))

theorem Frames.boundary {bytes : List UInt8} {frames : List WireFrame} (whole : Frames bytes frames) :
    Boundary bytes := by
  induction whole with
  | nil => exact .start
  | snoc before known whole ih => exact .next ih whole

/-- In front of a boundary there is nothing, or a whole frame at least. -/
theorem Boundary.first_whole {bytes : List UInt8} (boundary : Boundary bytes) :
    bytes = [] ∨ ∃ (head : HeaderBytes) (rest : List UInt8), bytes = head.toList ++ rest ∧ head.length ≤ rest.length := by
  induction boundary with
  | start => exact .inl rfl
  | @next before payload head reached whole ih =>
    cases ih with
    | inl empty =>
      subst empty
      exact .inr ⟨head, payload, rfl, whole.ge⟩
    | inr found =>
      obtain ⟨first, rest, rfl, enough⟩ := found
      refine .inr ⟨first, rest ++ (head.toList ++ payload), by simp, ?_⟩
      rw [List.length_append]
      omega

namespace FrameDecoder

/-- A decoder with its read buffer, and all the bytes that have been put into the buffer. -/
structure Buffered where
  decoder : FrameDecoder
  src : List UInt8
  received : List UInt8

inductive BufferedCall where
  | receive (bytes : List UInt8)
  | decode
  deriving DecidableEq

namespace Buffered

/-- One step of a run: some bytes arrive, or `decode` is called. -/
def step (width : PointerWidth) (state : Buffered) : BufferedCall → Option (Result (Decoded Frame)) × Buffered
  | .receive bytes => (none, { state with src := state.src ++ bytes, received := state.received ++ bytes })
  | .decode =>
    let (result, decoder, src) := state.decoder.decode (.unlimited width) state.src
    (some result, { state with decoder, src })

/-- A decoder with a frame limit that has not seen a byte. -/
def start (maxSize : Nat) (unmask acceptUnmasked : Bool) : Buffered where
  decoder := default |>.setUnmask unmask |>.setMaxFrameSize (some maxSize) |>.setAcceptUnmasked acceptUnmasked
  src := []
  received := []

/-- No header is pending and the unconsumed bytes start at a boundary, or a header is pending and they start
at that frame's payload. -/
def KnowsBoundary (state : Buffered) : Prop :=
  ∃ consumed, state.received = consumed ++ state.src ∧
    match state.decoder.header with
    | none => Boundary consumed
    | some (header, len) => ∃ (before : List UInt8) (head : HeaderBytes), Boundary before ∧
        consumed = before ++ head.toList ∧ header = head.header ∧ len = head.length

/-- The frames that the calls of a run have returned. -/
def returnedFrames (trace : List (BufferedCall × Option (Result (Decoded Frame)))) : List Frame :=
  trace.filterMap fun (_, reply) =>
    match reply with
    | some (.ok (.Some frame)) => some frame
    | _ => none

/-- What a decoder returns for these frames: each without its mask, and nothing for one that is refused for
want of it. -/
def handedOut (unmasking : Unmasking) (frames : List WireFrame) : List Frame :=
  frames.filterMap fun frame =>
    match frame.arrival unmasking with
    | .frame frame => some frame
    | _ => none

/-- The frames returned are those at the beginning of the stream. -/
def ReturnsFrames (decoder : FrameDecoder) (trace : List (BufferedCall × Option (Result (Decoded Frame))))
    (state : Buffered) : Prop :=
  ∃ done frames, Frames done frames ∧ done <+: state.received ∧
    returnedFrames trace = handedOut decoder.unmasking frames

/-- The call takes no header of a frame that is too long. -/
def Fits (width : PointerWidth) (state : Buffered) : BufferedCall → Prop
  | .receive _ => True
  | .decode => TakesNext width state.decoder state.src

/-! ## One step -/

/-- The decoder with its buffer, as a reader that nothing drives. -/
def reader (state : Buffered) : FramedRead := ⟨state.decoder, state.src, false, [], state.received, [], []⟩

/-- The decoder has gone through these frames. -/
structure Through (decoder : FrameDecoder) (trace : List (BufferedCall × Option (Result (Decoded Frame))))
    (state : Buffered) (frames : List WireFrame) : Prop where
  config : SameConfig decoder state.decoder
  inStep : InStep state.reader frames
  returned : returnedFrames trace = handedOut decoder.unmasking frames

theorem returnedFrames_append (trace : List (BufferedCall × Option (Result (Decoded Frame))))
    (entry : BufferedCall × Option (Result (Decoded Frame))) :
    returnedFrames (trace ++ [entry]) = returnedFrames trace ++ returnedFrames [entry] := List.filterMap_append

theorem handedOut_append (unmasking : Unmasking) (frames : List WireFrame) (frame : WireFrame) :
    handedOut unmasking (frames ++ [frame]) = handedOut unmasking frames ++ handedOut unmasking [frame] :=
  List.filterMap_append

theorem Through.decoded {decoder : FrameDecoder} {trace : List (BufferedCall × Option (Result (Decoded Frame)))}
    {state : Buffered} {frames : List WireFrame} {result : Result (Decoded Frame) × FrameDecoder × List UInt8}
    (through : Through decoder trace state frames) (decoded : DecodedOn state.reader frames result) :
    ∃ frames, Through decoder (trace ++ [(.decode, some result.1)])
      { state with decoder := result.2.1, src := result.2.2 } frames := by
  obtain ⟨config, inStep, same⟩ := through
  have unmasking : state.reader.decoder.unmasking = decoder.unmasking := config.unmasking
  cases decoded with
  | @waits wants after buffer nothing waiting kept =>
    refine ⟨frames, config.trans kept, waiting, ?_⟩
    have silent : returnedFrames [(.decode, some (.ok wants))] = [] := by
      cases wants with
      | Some frame => exact absurd rfl (nothing frame)
      | _ => rfl
    rw [returnedFrames_append, same, silent, List.append_nil]
  | @frame wireFrame frame after buffer within arrival handed kept =>
    refine ⟨frames ++ [wireFrame], config.trans kept, .inl handed, ?_⟩
    rw [unmasking] at arrival
    rw [returnedFrames_append, handedOut_append, same]
    simp [returnedFrames, handedOut, arrival]
  | @refused wireFrame after buffer arrival handed kept =>
    -- the whole frame is gone, and nothing is returned for it
    refine ⟨frames ++ [wireFrame], config.trans kept, .inl handed, ?_⟩
    rw [unmasking] at arrival
    rw [returnedFrames_append, handedOut_append, same]
    simp [returnedFrames, handedOut, arrival]
  | unreadable =>
    -- the header stays where it is
    refine ⟨frames, config, inStep, ?_⟩
    rw [returnedFrames_append, same]
    exact List.append_nil _

/-- Every step goes on through the frames of the stream. -/
theorem Through.step {decoder : FrameDecoder} {trace : List (BufferedCall × Option (Result (Decoded Frame)))}
    {width : PointerWidth} {state : Buffered} {frames : List WireFrame} {call : BufferedCall}
    (through : Through decoder trace state frames) (fits : state.Fits width call) :
    ∃ frames, Through decoder (trace ++ [(call, (state.step width call).1)]) (state.step width call).2 frames := by
  cases call with
  | receive bytes =>
    obtain ⟨config, inStep, same⟩ := through
    refine ⟨frames, config, inStep.filled bytes [], ?_⟩
    rw [returnedFrames_append, same]
    exact List.append_nil _
  | decode => exact through.decoded (decode_on width through.inStep fits)

theorem Through.knows {decoder : FrameDecoder} {trace : List (BufferedCall × Option (Result (Decoded Frame)))}
    {state : Buffered} {frames : List WireFrame} (through : Through decoder trace state frames) :
    state.KnowsBoundary := by
  cases through.inStep with
  | inl handed =>
    obtain ⟨done, whole, fresh, received⟩ := handed
    refine ⟨done, received, ?_⟩
    rw [show state.decoder.header = none from fresh]
    exact whole.boundary
  | inr pending =>
    obtain ⟨done, whole, head, known, _, held, received⟩ := pending
    refine ⟨done ++ head.toList, by rw [List.append_assoc]; exact received, ?_⟩
    rw [show state.decoder.header = some (head.header, head.length) from held]
    exact ⟨done, head, whole.boundary, rfl, rfl, rfl⟩

theorem Through.returnsFrames {decoder : FrameDecoder}
    {trace : List (BufferedCall × Option (Result (Decoded Frame)))} {state : Buffered} {frames : List WireFrame}
    (through : Through decoder trace state frames) : ReturnsFrames decoder trace state := by
  obtain ⟨config, inStep, same⟩ := through
  cases inStep with
  | inl handed =>
    obtain ⟨done, whole, _, received⟩ := handed
    exact ⟨done, frames, whole, ⟨_, received.symm⟩, same⟩
  | inr pending =>
    obtain ⟨done, whole, head, _, _, _, received⟩ := pending
    exact ⟨done, frames, whole, ⟨_, received.symm⟩, same⟩

/-! ## Runs -/

/-- In a run that meets no frame that is too long the decoder always knows where frames begin, and it returns
the frames of the stream and nothing else. -/
theorem boundaries_known (width : PointerWidth) (maxSize : Nat) (unmask acceptUnmasked : Bool)
    (calls : List BufferedCall)
    (fits : Lib.Meets (Buffered.step width) (Fits width) (start maxSize unmask acceptUnmasked) calls) :
    (Lib.final (Buffered.step width) (start maxSize unmask acceptUnmasked) calls).KnowsBoundary ∧
      ReturnsFrames (start maxSize unmask acceptUnmasked).decoder
        (Lib.trace (Buffered.step width) (start maxSize unmask acceptUnmasked) calls)
        (Lib.final (Buffered.step width) (start maxSize unmask acceptUnmasked) calls) := by
  have begins : ∃ frames, Through (start maxSize unmask acceptUnmasked).decoder []
      (start maxSize unmask acceptUnmasked) frames :=
    ⟨[], ⟨rfl, rfl⟩, .inl ⟨[], .nil, rfl, rfl⟩, rfl⟩
  have preserved : ∀ past (state : Buffered) call,
      (∃ frames, Through (start maxSize unmask acceptUnmasked).decoder past state frames) → Fits width state call →
      ∃ frames, Through (start maxSize unmask acceptUnmasked).decoder (past ++ [(call, (state.step width call).1)])
        (state.step width call).2 frames := by
    intro past state call reached fits
    obtain ⟨frames, through⟩ := reached
    exact through.step fits
  obtain ⟨frames, through⟩ := Lib.trace_invariant preserved begins fits
  exact ⟨through.knows, through.returnsFrames⟩

/-- The header that comes up is the one that the parser finds. -/
theorem takesNext_of_parse {width : PointerWidth} {decoder : FrameDecoder} {src : List UInt8}
    (takes : ∀ header length, (FrameHeader.parse ⟨src, 0⟩).1 = .ok (some (header, length)) →
      Takes (.unlimited width) decoder.maxFrameSize length) : TakesNext width decoder src := by
  intro _ head rest split known
  apply takes head.header head.length
  have parsed := @FrameHeader.parse_whole ⟨src, 0⟩ head rest split
  rw [parsed, if_neg (by simp [known])]

/-- A server is sent an unmasked Ping, which it refuses, and a Pong, of which the last bytes come later. -/
def unmaskedPing : List BufferedCall :=
  [.receive [0x89, 2, 1, 2, 0x8A, 0x81, 1, 2], .decode, .decode, .receive [3, 4, 0x61], .decode]

theorem boundaries_known_unmaskedPing :
    (Lib.final (Buffered.step .w64) (start 4 true false) unmaskedPing).KnowsBoundary ∧
      ReturnsFrames (start 4 true false).decoder (Lib.trace (Buffered.step .w64) (start 4 true false) unmaskedPing)
        (Lib.final (Buffered.step .w64) (start 4 true false) unmaskedPing) := by
  apply boundaries_known
  refine ⟨trivial, takesNext_of_parse ?_, takesNext_of_parse ?_, trivial, takesNext_of_parse ?_, trivial⟩
  · intro header length parsed
    cases parsed
    decide
  · intro header length parsed
    cases parsed
  · intro header length parsed
    cases parsed
    decide

/-- A text of five bytes at a decoder that takes one; its payload begins like a text of one byte. -/
def tooLong : List BufferedCall := [.receive [0x81, 5, 0x81, 1, 0x78, 0x79, 0x7A], .decode, .decode]

/-- The second call returns the text that is hidden in the payload, and stops in the middle of it. -/
theorem not_boundariesKnown_tooLong :
    ¬ (Lib.final (Buffered.step .w64) (start 1 false false) tooLong).KnowsBoundary ∧
      returnedFrames (Lib.trace (Buffered.step .w64) (start 1 false false) tooLong) =
        [⟨{ FrameHeader.default with opcode := .Data .Text }, [0x78]⟩] := by
  refine ⟨?_, by decide⟩
  intro knows
  obtain ⟨consumed, split, boundary⟩ := knows
  have stopped : [0x81, 5, 0x81, 1, 0x78] ++ [0x79, 0x7A] = consumed ++ [0x79, 0x7A] := split
  obtain rfl := List.append_cancel_right stopped
  cases Boundary.first_whole boundary with
  | inl empty => cases empty
  | inr found =>
    -- the first header declares five bytes, and only three have been consumed
    obtain ⟨⟨first, second, lengthField, maskField, wholeLength, wholeMask⟩, rest, equal, enough⟩ := found
    simp only [HeaderBytes.toList, List.cons_append, List.nil_append, List.cons.injEq] at equal
    obtain ⟨rfl, rfl, equal⟩ := equal
    have short : FrameHeader.lengthSize 5 = 0 := by decide
    have declared : HeaderBytes.length ⟨0x81, 5, lengthField, maskField, wholeLength, wholeMask⟩ = 5 := by
      rw [HeaderBytes.length, FrameHeader.declaredLength, if_neg (by rw [short]; decide)]
      show ((5 : UInt8) &&& 0x7F).toNat = 5
      decide
    have size := congrArg List.length equal
    simp only [List.length_append, List.length_cons, List.length_nil] at size
    omega

end Buffered

end FrameDecoder

end MonoioTungstenite
