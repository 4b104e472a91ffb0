import MonoioTungstenite.Encode
import MonoioTungstenite.Lib.Incremental

/-! # Decoding frames

`protocol/frame/codec/decode.rs`.  A call works on the decoder and the read buffer and leaves both
behind, also when it fails.

`FrameDecoder.incremental` is the decoder as an incremental one: a parsed header is kept while the
payload arrives, so no call is ever taken back. -/

namespace MonoioTungstenite

/-- `monoio_codec::Decoded` -/
inductive Decoded (α : Type) where
  | Some (item : α)
  | Insufficient
  | InsufficientAtLeast (length : Nat)
  deriving DecidableEq, Repr

/-- Decoder for WebSocket frames. -/
structure FrameDecoder where
  header : Option (FrameHeader × Nat)
  maxFrameSize : Option Nat
  unmask : Bool
  acceptUnmasked : Bool
  deriving DecidableEq, Repr

namespace FrameDecoder

/-- `impl Default for FrameDecoder` -/
def default : FrameDecoder where
  header := none
  maxFrameSize := none
  unmask := false
  acceptUnmasked := false

def setUnmask (unmask : Bool) (decoder : FrameDecoder) : FrameDecoder := { decoder with unmask }

def setMaxFrameSize (maxSize : Option Nat) (decoder : FrameDecoder) : FrameDecoder :=
  { decoder with maxFrameSize := maxSize }

def setAcceptUnmasked (accept : Bool) (decoder : FrameDecoder) : FrameDecoder :=
  { decoder with acceptUnmasked := accept }

/-- Takes the mask off a frame that is complete. -/
def finish (decoder : FrameDecoder) (header : FrameHeader) (payload : List UInt8) : Except Error Frame :=
  if decoder.unmask then
    match header.mask with
    | some mask => .ok ⟨{ header with mask := none }, applyMask payload mask⟩
    | none =>
      if decoder.acceptUnmasked then .ok ⟨header, payload⟩
      else .error (.Protocol .UnmaskedFrameFromClient)
  else .ok ⟨header, payload⟩

/-- The second half of `decode`: the header is there. -/
def decodePayload (decoder : FrameDecoder) (src : List UInt8) :
    Result (Decoded Frame) × FrameDecoder × List UInt8 :=
  match decoder.header with
  | none => (.panic .pendingHeaderUnwrap, decoder, src)
  | some (header, len) =>
    if src.length < len then (.ok (.InsufficientAtLeast len), decoder, src)
    else
      let payload := src.take len
      let src := src.drop len
      let decoder := { decoder with header := none }
      match decoder.finish header payload with
      | .ok frame => (.ok (.Some frame), decoder, src)
      | .error error => (.err error, decoder, src)

/-- What `decode` does with a header it has just parsed. -/
def startFrame (target : Target) (header : FrameHeader) (length : Nat) (decoder : FrameDecoder)
    (src : List UInt8) : Result (Decoded Frame) × FrameDecoder × List UInt8 :=
  let len := target.asUsize length
  -- enforce frame size limit early
  match decoder.maxFrameSize.filter (· < len) with
  | some maxSize => (.err (.Capacity (.MessageTooLong len maxSize)), decoder, src)
  | none =>
    if target.reserveFails src.length len then (.panic .capacityOverflow, decoder, src)
    else decodePayload { decoder with header := some (header, len) } src

/-- `Decoder::decode` -/
def decode (target : Target) (decoder : FrameDecoder) (src : List UInt8) :
    Result (Decoded Frame) × FrameDecoder × List UInt8 :=
  match decoder.header with
  | some _ => decodePayload decoder src
  | none =>
    let (parsed, cursor) := FrameHeader.parse ⟨src, 0⟩
    Lib.andThen (parsed, decoder, src) fun parsed (decoder, src) =>
      match parsed with
      | some (header, length) =>
        if src.length < cursor.position then (.panic .advancePastEnd, decoder, src)
        else startFrame target header length decoder (src.drop cursor.position)
      | none =>
        if target.reserveFails src.length FrameHeader.MAX_SIZE then (.panic .capacityOverflow, decoder, src)
        else (.ok .Insufficient, decoder, src)

/-! ## Spec lemmas -/

theorem decode_pending {target : Target} {decoder : FrameDecoder} {src : List UInt8}
    {pending : FrameHeader × Nat} (held : decoder.header = some pending) :
    decode target decoder src = decodePayload decoder src := by
  simp only [decode, held]

theorem decode_cut {target : Target} {decoder : FrameDecoder} {src : List UInt8}
    (fresh : decoder.header = none) (cut : FrameHeader.IsCut src) :
    decode target decoder src =
      if target.reserveFails src.length FrameHeader.MAX_SIZE then (.panic .capacityOverflow, decoder, src)
      else (.ok .Insufficient, decoder, src) := by
  simp only [decode, fresh, FrameHeader.parse_cut ⟨src, 0⟩ cut, Lib.andThen_ok]

theorem decode_whole {target : Target} {decoder : FrameDecoder} {bytes : FrameHeader.HeaderBytes}
    {rest : List UInt8} (fresh : decoder.header = none) :
    decode target decoder (bytes.toList ++ rest) =
      if bytes.opcode.isReserved then
        (.err (.Protocol (.InvalidOpcode (bytes.first &&& 0x0F))), decoder, bytes.toList ++ rest)
      else startFrame target bytes.header bytes.length decoder rest := by
  have enough : ¬ (bytes.toList ++ rest).length < bytes.toList.length := by simp
  simp only [decode, fresh, FrameHeader.parse_whole ⟨bytes.toList ++ rest, 0⟩ rfl, Cursor.advance,
    Nat.zero_add]
  split
  next => rfl
  next => simp only [Lib.andThen_ok, if_neg enough, List.drop_left]

theorem startFrame_unlimited (width : PointerWidth) (header : FrameHeader) (length : Nat)
    (decoder : FrameDecoder) (src : List UInt8) :
    startFrame (.unlimited width) header length decoder src =
      match decoder.maxFrameSize.filter (· < (Target.unlimited width).asUsize length) with
      | some maxSize =>
        (.err (.Capacity (.MessageTooLong ((Target.unlimited width).asUsize length) maxSize)), decoder, src)
      | none =>
        decodePayload { decoder with header := some (header, (Target.unlimited width).asUsize length) } src := rfl

/-! ## The decoder is incremental -/

/-- How a call that returned nothing ended. -/
abbrev Stop := Result Empty

/-- A call as the step of an incremental decoder. -/
def stepOf (called : Result (Decoded Frame) × FrameDecoder × List UInt8) :
    Lib.Decoding FrameDecoder UInt8 Frame Stop :=
  match called with
  | (.ok (.Some frame), decoder, src) => .item frame decoder src
  | (.ok _, decoder, src) => .wait decoder src
  | (.err error, _) => .fail (.err error)
  | (.panic site, _) => .fail (.panic site)
  | (.pending, _) => .fail .pending

/-- A pending header counts as one byte: a frame without a payload uses up just that. -/
def weight (decoder : FrameDecoder) : Nat := if decoder.header.isSome then 1 else 0

theorem finish_error {decoder : FrameDecoder} {header : FrameHeader} {payload : List UInt8} {error : Error}
    (failed : decoder.finish header payload = .error error) : error = .Protocol .UnmaskedFrameFromClient := by
  unfold finish at failed
  split at failed
  · split at failed
    · cases failed
    · split at failed <;> cases failed
      rfl
  · cases failed

/-- How a call ends that has the header: the payload is not there yet, or it is taken off the buffer. -/
inductive PayloadDecoded (decoder : FrameDecoder) (header : FrameHeader) (len : Nat) (src : List UInt8) :
    Result (Decoded Frame) × FrameDecoder × List UInt8 → Prop
  | short (short : src.length < len) :
    PayloadDecoded decoder header len src (.ok (.InsufficientAtLeast len), decoder, src)
  | frame {payload rest : List UInt8} {frame : Frame} (split : src = payload ++ rest) (whole : payload.length = len)
    (made : { decoder with header := none }.finish header payload = .ok frame) :
    PayloadDecoded decoder header len src (.ok (.Some frame), { decoder with header := none }, rest)
  | refused {payload rest : List UInt8} (split : src = payload ++ rest) (whole : payload.length = len)
    (made : { decoder with header := none }.finish header payload = .error (.Protocol .UnmaskedFrameFromClient)) :
    PayloadDecoded decoder header len src
      (.err (.Protocol .UnmaskedFrameFromClient), { decoder with header := none }, rest)

theorem decodePayload_decoded {decoder : FrameDecoder} {header : FrameHeader} {len : Nat}
    (held : decoder.header = some (header, len)) (src : List UInt8) :
    PayloadDecoded decoder header len src (decodePayload decoder src) := by
  simp only [decodePayload, held]
  by_cases short : src.length < len
  · rw [if_pos short]
    exact .short short
  · rw [if_neg short]
    have split : src = src.take len ++ src.drop len := (List.take_append_drop _ _).symm
    have whole : (src.take len).length = len := by
      rw [List.length_take]
      omega
    cases made : { decoder with header := none }.finish header (src.take len) with
    | ok frame => exact .frame split whole made
    | error error =>
      obtain rfl := finish_error made
      exact .refused split whole made

/-- What becomes of a header that has been parsed: its length is over the limit, there is no room for it, or the
payload is awaited. -/
inductive Started (target : Target) (header : FrameHeader) (length : Nat) (decoder : FrameDecoder) (src : List UInt8) :
    Result (Decoded Frame) × FrameDecoder × List UInt8 → Prop
  | tooLong {maxSize : Nat} (limit : decoder.maxFrameSize = some maxSize) (exceeds : maxSize < target.asUsize length) :
    Started target header length decoder src
      (.err (.Capacity (.MessageTooLong (target.asUsize length) maxSize)), decoder, src)
  | full (within : ∀ maxSize ∈ decoder.maxFrameSize, target.asUsize length ≤ maxSize)
    (fails : target.reserveFails src.length (target.asUsize length) = true) :
    Started target header length decoder src (.panic .capacityOverflow, decoder, src)
  | room {result : Result (Decoded Frame) × FrameDecoder × List UInt8}
    (within : ∀ maxSize ∈ decoder.maxFrameSize, target.asUsize length ≤ maxSize)
    (room : target.reserveFails src.length (target.asUsize length) = false)
    (payload : PayloadDecoded { decoder with header := some (header, target.asUsize length) } header
      (target.asUsize length) src result) : Started target header length decoder src result

theorem startFrame_started (target : Target) (header : FrameHeader) (length : Nat) (decoder : FrameDecoder)
    (src : List UInt8) : Started target header length decoder src (startFrame target header length decoder src) := by
  rw [startFrame]
  split
  next maxSize limited =>
    rw [Option.filter_eq_some_iff] at limited
    exact .tooLong limited.1 (of_decide_eq_true limited.2)
  next unlimited =>
    rw [Option.filter_eq_none_iff] at unlimited
    have within : ∀ maxSize ∈ decoder.maxFrameSize, target.asUsize length ≤ maxSize :=
      fun maxSize limit => Nat.not_lt.mp fun exceeds => unlimited maxSize limit (decide_eq_true exceeds)
    split
    next fails => exact .full within fails
    next room => exact .room within (by simpa using room) (decodePayload_decoded rfl src)

/-- What a call does behind a complete header. -/
theorem decode_started (target : Target) {decoder : FrameDecoder} (fresh : decoder.header = none)
    {bytes : FrameHeader.HeaderBytes} (known : bytes.opcode.isReserved = false) (rest : List UInt8) :
    Started target bytes.header bytes.length decoder rest (decode target decoder (bytes.toList ++ rest)) := by
  rw [decode_whole fresh, known, if_neg Bool.false_ne_true]
  exact startFrame_started target bytes.header bytes.length decoder rest

/-- How a call of `decode` ends. -/
inductive DecodeCalled (target : Target) (decoder : FrameDecoder) (src : List UInt8) :
    Result (Decoded Frame) × FrameDecoder × List UInt8 → Prop
  | resumed {header : FrameHeader} {len : Nat} {result : Result (Decoded Frame) × FrameDecoder × List UInt8}
    (held : decoder.header = some (header, len)) (payload : PayloadDecoded decoder header len src result) :
    DecodeCalled target decoder src result
  | cut (fresh : decoder.header = none) (cut : FrameHeader.IsCut src) :
    DecodeCalled target decoder src (.ok .Insufficient, decoder, src)
  | cutFull (fresh : decoder.header = none) (fails : target.reserveFails src.length FrameHeader.MAX_SIZE = true) :
    DecodeCalled target decoder src (.panic .capacityOverflow, decoder, src)
  | reserved {bytes : FrameHeader.HeaderBytes} {rest : List UInt8} (fresh : decoder.header = none)
    (split : src = bytes.toList ++ rest) (reserved : bytes.opcode.isReserved = true) :
    DecodeCalled target decoder src (.err (.Protocol (.InvalidOpcode (bytes.first &&& 0x0F))), decoder, src)
  | tooLong {bytes : FrameHeader.HeaderBytes} {rest : List UInt8} {maxSize : Nat} (fresh : decoder.header = none)
    (split : src = bytes.toList ++ rest) (limit : decoder.maxFrameSize = some maxSize)
    (exceeds : maxSize < target.asUsize bytes.length) :
    DecodeCalled target decoder src
      (.err (.Capacity (.MessageTooLong (target.asUsize bytes.length) maxSize)), decoder, rest)
  | full {bytes : FrameHeader.HeaderBytes} {rest : List UInt8} (fresh : decoder.header = none)
    (split : src = bytes.toList ++ rest) (fails : target.reserveFails rest.length (target.asUsize bytes.length) = true) :
    DecodeCalled target decoder src (.panic .capacityOverflow, decoder, rest)
  | started {bytes : FrameHeader.HeaderBytes} {rest : List UInt8}
    {result : Result (Decoded Frame) × FrameDecoder × List UInt8} (fresh : decoder.header = none)
    (split : src = bytes.toList ++ rest) (known : bytes.opcode.isReserved = false)
    (within : ∀ maxSize ∈ decoder.maxFrameSize, target.asUsize bytes.length ≤ maxSize)
    (payload : PayloadDecoded { decoder with header := some (bytes.header, target.asUsize bytes.length) } bytes.header
      (target.asUsize bytes.length) rest result) : DecodeCalled target decoder src result

theorem decode_called (target : Target) (decoder : FrameDecoder) (src : List UInt8) :
    DecodeCalled target decoder src (decode target decoder src) := by
  cases held : decoder.header with
  | some pending =>
    rw [decode_pending held]
    exact .resumed held (decodePayload_decoded held src)
  | none =>
    by_cases cut : FrameHeader.IsCut src
    · rw [decode_cut held cut]
      split
      next fails => exact .cutFull held fails
      next => exact .cut held cut
    · obtain ⟨bytes, rest, rfl⟩ := FrameHeader.exists_whole cut
      cases known : bytes.opcode.isReserved with
      | true =>
        rw [decode_whole held, if_pos known]
        exact .reserved held rfl known
      | false =>
        have started := decode_started target held known rest
        generalize decode target decoder (bytes.toList ++ rest) = result at started
        cases started with
        | tooLong limit exceeds => exact .tooLong held rfl limit exceeds
        | full _ fails => exact .full held rfl fails
        | room within _ payload => exact .started held rfl known within payload

theorem decodePayload_whole {decoder : FrameDecoder} {header : FrameHeader} {payload : List UInt8}
    (held : decoder.header = some (header, payload.length)) (rest : List UInt8) :
    decodePayload decoder (payload ++ rest) =
      match { decoder with header := none }.finish header payload with
      | .ok frame => (.ok (.Some frame), { decoder with header := none }, rest)
      | .error error => (.err error, { decoder with header := none }, rest) := by
  simp only [decodePayload, held]
  rw [if_neg (by simp), List.take_left, List.drop_left]

/-- A call on a longer buffer does the same, or goes on from where the call on the shorter one waited. -/
def Continues (next : FrameDecoder → List UInt8 → Lib.Decoding FrameDecoder UInt8 Frame Stop)
    (called : Lib.Decoding FrameDecoder UInt8 Frame Stop)
    (longer : List UInt8 → Lib.Decoding FrameDecoder UInt8 Frame Stop) : Prop :=
  match called with
  | .item frame decoder src => ∀ more, longer more = .item frame decoder (src ++ more)
  | .fail stop => ∀ more, longer more = .fail stop
  | .wait decoder src => ∀ more, longer more = next decoder (src ++ more)

section Incremental

variable (width : PointerWidth)

/-- One call of `decode` on a machine on which allocation always succeeds. -/
def decodeStep (decoder : FrameDecoder) (src : List UInt8) : Lib.Decoding FrameDecoder UInt8 Frame Stop :=
  stepOf (decode (.unlimited width) decoder src)

theorem continues_decodePayload {decoder : FrameDecoder} {pending : FrameHeader × Nat}
    (held : decoder.header = some pending) (src : List UInt8) :
    Continues (decodeStep width) (stepOf (decodePayload decoder src))
      (fun more => stepOf (decodePayload decoder (src ++ more))) := by
  have decoded := decodePayload_decoded held src
  have heldWhole : ∀ payload : List UInt8, payload.length = pending.2 →
      decoder.header = some (pending.1, payload.length) := fun payload whole => held.trans (by rw [whole])
  generalize decodePayload decoder src = result at decoded
  cases decoded with
  | short short =>
    intro more
    rw [decodeStep, decode_pending held]
  | @frame payload rest frame split whole made =>
    intro more
    rw [split]
    show stepOf (decoder.decodePayload (payload ++ rest ++ more)) = _
    rw [List.append_assoc, decodePayload_whole (heldWhole payload whole), made]
    rfl
  | @refused payload rest split whole made =>
    intro more
    rw [split]
    show stepOf (decoder.decodePayload (payload ++ rest ++ more)) = _
    rw [List.append_assoc, decodePayload_whole (heldWhole payload whole), made]
    rfl

theorem continues_startFrame (header : FrameHeader) (length : Nat) (decoder : FrameDecoder) (src : List UInt8) :
    Continues (decodeStep width) (stepOf (startFrame (.unlimited width) header length decoder src))
      (fun more => stepOf (startFrame (.unlimited width) header length decoder (src ++ more))) := by
  simp only [startFrame_unlimited]
  cases decoder.maxFrameSize.filter (· < (Target.unlimited width).asUsize length) with
  | some maxSize => exact fun more => rfl
  | none => exact continues_decodePayload width rfl src

theorem continues_decode (decoder : FrameDecoder) (src : List UInt8) :
    Continues (decodeStep width) (decodeStep width decoder src) (fun more => decodeStep width decoder (src ++ more)) := by
  cases held : decoder.header with
  | some pending =>
    simp only [decodeStep, decode_pending held]
    exact continues_decodePayload width held src
  | none =>
    by_cases cut : FrameHeader.IsCut src
    · rw [decodeStep, decode_cut held cut]
      exact fun more => rfl
    · obtain ⟨bytes, rest, rfl⟩ := FrameHeader.exists_whole cut
      simp only [decodeStep, List.append_assoc, decode_whole held]
      by_cases reserved : bytes.opcode.isReserved
      · simp only [if_pos reserved]
        exact fun more => rfl
      · simp only [if_neg reserved]
        exact continues_startFrame width bytes.header bytes.length decoder rest

/-- A frame takes bytes off the buffer, or at least the pending header. -/
theorem decodeStep_shrinks {decoder after : FrameDecoder} {src rest : List UInt8} {frame : Frame}
    (called : decodeStep width decoder src = .item frame after rest) :
    after.weight + rest.length < decoder.weight + src.length := by
  have run := decode_called (.unlimited width) decoder src
  rw [decodeStep] at called
  generalize decode (.unlimited width) decoder src = result at run called
  cases run with
  | resumed held payload =>
    cases payload with
    | short | refused => cases called
    | frame split whole made =>
      cases called
      rw [split, List.length_append]
      simp only [weight, held, Option.isSome_some, Option.isSome_none, if_pos, if_neg Bool.false_ne_true]
      omega
  | cut | cutFull | reserved | tooLong | full => cases called
  | @started bytes behind _ fresh split known within payload =>
    cases payload with
    | short | refused => cases called
    | frame later whole made =>
      cases called
      have size := bytes.length_toList
      rw [FrameHeader.sizeOf] at size
      rw [split, later, List.length_append, List.length_append]
      simp only [weight, fresh, Option.isSome_none, if_neg Bool.false_ne_true]
      omega

/-- The decoder as an incremental one. -/
def incremental : Lib.Incremental FrameDecoder UInt8 Frame Stop where
  step := decodeStep width
  weight := weight
  item_shrinks := decodeStep_shrinks width
  item_append := by
    intro decoder src frame after rest called more
    have continues := continues_decode width decoder src
    rw [called] at continues
    exact continues more
  fail_append := by
    intro decoder src stop called more
    have continues := continues_decode width decoder src
    rw [called] at continues
    exact continues more
  wait_append := by
    intro decoder src after rest called more
    have continues := continues_decode width decoder src
    rw [called] at continues
    exact continues more

end Incremental

/-- A buffer that is refused its growth is the only thing a call can panic on. -/
theorem decode_panic {target : Target} {decoder : FrameDecoder} {src : List UInt8} {site : Panic}
    (panicked : (decode target decoder src).1 = .panic site) :
    site = .capacityOverflow ∧ target.capacity ≠ none := by
  have limited : ∀ {length additional : Nat}, target.reserveFails length additional = true →
      target.capacity ≠ none := by
    intro length additional fails none
    rw [Target.reserveFails, none] at fails
    cases fails
  have run := decode_called target decoder src
  generalize decode target decoder src = result at run panicked
  cases run with
  | resumed held payload => cases payload <;> cases panicked
  | cut | reserved | tooLong => cases panicked
  | cutFull fresh fails | full fresh split fails =>
    cases panicked
    exact ⟨rfl, limited fails⟩
  | started fresh split known within payload => cases payload <;> cases panicked

/-! ## Segmentation -/

/-- The errors a decoder gives. -/
def IsDecodeError : Stop → Prop
  | .err (.Protocol (.InvalidOpcode _)) => True
  | .err (.Capacity (.MessageTooLong _ _)) => True
  | .err (.Protocol .UnmaskedFrameFromClient) => True
  | _ => False

theorem decode_err {target : Target} {decoder : FrameDecoder} {src : List UInt8} {error : Error}
    (failed : (decode target decoder src).1 = .err error) : IsDecodeError (.err error) := by
  have payloadError : ∀ {decoder : FrameDecoder} {header : FrameHeader} {len : Nat} {src : List UInt8}
      {result : Result (Decoded Frame) × FrameDecoder × List UInt8},
      PayloadDecoded decoder header len src result → result.1 = .err error → IsDecodeError (.err error) := by
    intro decoder header len src result payload failed
    cases payload with
    | short | frame => cases failed
    | refused =>
      cases failed
      trivial
  have run := decode_called target decoder src
  generalize decode target decoder src = result at run failed
  cases run with
  | resumed held payload => exact payloadError payload failed
  | cut | cutFull | full => cases failed
  | reserved | tooLong =>
    cases failed
    trivial
  | started fresh split known within payload => exact payloadError payload failed

/-- A call always returns. -/
theorem decode_returns (target : Target) (decoder : FrameDecoder) (src : List UInt8) :
    (decode target decoder src).1 ≠ .pending := by
  have run := decode_called target decoder src
  generalize decode target decoder src = result at run
  cases run with
  | resumed held payload => cases payload <;> nofun
  | cut | cutFull | reserved | tooLong | full => exact nofun
  | started fresh split known within payload => cases payload <;> nofun

theorem decodeStep_fail {width : PointerWidth} {decoder : FrameDecoder} {src : List UInt8} {stop : Stop}
    (called : decodeStep width decoder src = .fail stop) : IsDecodeError stop := by
  have returns := decode_returns (.unlimited width) decoder src
  unfold decodeStep at called
  rcases run : decode (.unlimited width) decoder src with ⟨decoded | error | site | _, state⟩
  · rw [run] at called
    cases decoded <;> cases called
  · rw [run] at called
    cases called
    exact decode_err (congrArg Prod.fst run)
  · exact absurd rfl (decode_panic (congrArg Prod.fst run)).2
  · rw [run] at returns
    exact absurd rfl returns

/-- Appends each chunk to the read buffer of a new decoder with the given configuration, and calls
`decode` after each of them until it no longer returns a frame. -/
def decodeChunks (width : PointerWidth) (maxFrameSize : Option Nat) (unmask acceptUnmasked : Bool)
    (chunks : List (List UInt8)) : List Frame × Lib.Rest FrameDecoder UInt8 Stop :=
  (incremental width).feed
    (default |>.setUnmask unmask |>.setMaxFrameSize maxFrameSize |>.setAcceptUnmasked acceptUnmasked) [] chunks

theorem decodeChunks_eq_drain (width : PointerWidth) (maxFrameSize : Option Nat) (unmask acceptUnmasked : Bool)
    (chunks : List (List UInt8)) :
    decodeChunks width maxFrameSize unmask acceptUnmasked chunks =
      (incremental width).drain
        (default |>.setUnmask unmask |>.setMaxFrameSize maxFrameSize |>.setAcceptUnmasked acceptUnmasked)
        chunks.flatten := by
  have settled : ∀ decoder : FrameDecoder, decoder.header = none →
      (incremental width).step decoder [] = .wait decoder [] := by
    intro decoder fresh
    have cut : FrameHeader.IsCut [] := trivial
    exact congrArg stepOf (decode_cut fresh cut)
  exact Lib.Incremental.feed_eq_drain (settled _ rfl) chunks

/-- What a stream decodes to does not depend on how its bytes arrive, nor does the way it ends: the same
error of the decoder, or the same pending header and the same bytes left in the buffer. -/
theorem decodeChunks_segmentation (width : PointerWidth) (maxFrameSize : Option Nat)
    (unmask acceptUnmasked : Bool) (left right : List (List UInt8)) (sameStream : left.flatten = right.flatten) :
    decodeChunks width maxFrameSize unmask acceptUnmasked left =
      decodeChunks width maxFrameSize unmask acceptUnmasked right ∧
    ∀ stop, (decodeChunks width maxFrameSize unmask acceptUnmasked left).2 = .failed stop → IsDecodeError stop := by
  refine ⟨?_, ?_⟩
  · rw [decodeChunks_eq_drain, decodeChunks_eq_drain, sameStream]
  · rw [decodeChunks_eq_drain]
    intro stop failed
    exact Lib.Incremental.drain_failed IsDecodeError (fun called => decodeStep_fail called) failed

theorem decodeChunks_segmentation_ping :
    decodeChunks .w64 (some 125) true false [[0x89, 0x82, 1], [2, 3, 4, 5], [6]] =
      decodeChunks .w64 (some 125) true false [[0x89], [0x82, 1, 2, 3, 4], [], [5, 6]] ∧
    ∀ stop, (decodeChunks .w64 (some 125) true false [[0x89, 0x82, 1], [2, 3, 4, 5], [6]]).2 = .failed stop →
      IsDecodeError stop :=
  decodeChunks_segmentation _ _ _ _ _ _ (by decide)

end FrameDecoder

end MonoioTungstenite
