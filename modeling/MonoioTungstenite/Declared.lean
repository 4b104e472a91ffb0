import MonoioTungstenite.Format

/-! # Declared lengths

What the decoder makes of the length that a header declares.  It is cut down to a `usize` before it is compared
with the limit, so that the limit is kept exactly if the length fits in one, or what is left of it is too long
all the same (`length_enforced_iff`).  And room for the whole payload is asked for before any of it is there,
which panics exactly if a buffer cannot have that many bytes (`decode_returns_iff`). -/

namespace MonoioTungstenite

/-- `isize::MAX`: a buffer has at most so many bytes. -/
def PointerWidth.isizeMax (width : PointerWidth) : Nat := 2 ^ (width.bits - 1) - 1

/-- A machine with memory for every buffer that may exist. -/
def Target.physical (width : PointerWidth) : Target := ⟨width, some width.isizeMax⟩

@[simp] theorem Target.physical_reserveFails (width : PointerWidth) (length additional : Nat) :
    (physical width).reserveFails length additional = true ↔ width.isizeMax < length + additional := by
  simp [physical, reserveFails]

theorem Target.reserveFails_mono {target : Target} {length more additional : Nat} (within : length ≤ more)
    (fails : target.reserveFails length additional = true) : target.reserveFails more additional = true := by
  unfold reserveFails at fails ⊢
  cases capacity : target.capacity with
  | none => rw [capacity] at fails; cases fails
  | some bound =>
    rw [capacity] at fails
    have exceeds : bound < length + additional := of_decide_eq_true fails
    exact decide_eq_true (by omega)

theorem Target.asUsize_le (target : Target) (value : Nat) : target.asUsize value ≤ target.usizeMax := by
  have positive : 0 < 2 ^ target.width.bits := Nat.two_pow_pos _
  have below := Nat.mod_lt value positive
  rw [asUsize, usizeMax]
  omega

namespace FrameHeader

/-- The bytes of a header that has been parsed. -/
theorem parsed_whole {src : List UInt8} {header : FrameHeader} {length : Nat} {cursor : Cursor}
    (parsed : parse ⟨src, 0⟩ = (.ok (some (header, length)), cursor)) :
    ∃ (bytes : HeaderBytes) (rest : List UInt8), src = bytes.toList ++ rest ∧ bytes.opcode.isReserved = false ∧
      bytes.header = header ∧ bytes.length = length ∧ cursor.position = bytes.toList.length := by
  obtain ⟨bytes, rest, split⟩ := parse_settled (by rw [parsed]; nofun)
  have whole := parse_whole ⟨src, 0⟩ split
  rw [parsed, Prod.mk.injEq] at whole
  obtain ⟨result, stopped⟩ := whole
  refine ⟨bytes, rest, split, ?_⟩
  cases known : bytes.opcode.isReserved with
  | true => simp [known] at result
  | false =>
    rw [known, if_neg Bool.false_ne_true] at result
    cases result
    exact ⟨rfl, rfl, rfl, by rw [stopped]; simp⟩

theorem parse_known {bytes : HeaderBytes} (known : bytes.opcode.isReserved = false) (rest : List UInt8) :
    parse ⟨bytes.toList ++ rest, 0⟩ =
      (.ok (some (bytes.header, bytes.length)), ⟨bytes.toList ++ rest, bytes.toList.length⟩) := by
  rw [parse_whole ⟨bytes.toList ++ rest, 0⟩ rfl, known, if_neg Bool.false_ne_true]
  simp [Cursor.advance]

/-- Every header that may be written has bytes. -/
theorem exists_headerBytes {header : FrameHeader} (known : header.opcode.isReserved = false) {length : Nat}
    (fits : length < 2 ^ 64) :
    ∃ bytes : HeaderBytes, bytes.opcode.isReserved = false ∧ bytes.header = header ∧ bytes.length = length := by
  refine ⟨header.encodedBytes length, ?_, header_encodedBytes known length, length_encodedBytes header fits⟩
  rw [opcode_encodedBytes known, known]

end FrameHeader

namespace FrameDecoder

/-! ## The limit -/

/-- A decoder that waits for a header. -/
def waiting (maxFrameSize : Option Nat) (unmask acceptUnmasked : Bool) : FrameDecoder :=
  default |>.setUnmask unmask |>.setMaxFrameSize maxFrameSize |>.setAcceptUnmasked acceptUnmasked

/-- Calls `decode`, and again with each chunk that arrives, as long as it waits. -/
def decodeArriving (target : Target) : FrameDecoder → List UInt8 → List (List UInt8) → Result (Decoded Frame)
  | decoder, src, [] => (decode target decoder src).1
  | decoder, src, chunk :: chunks =>
    match decode target decoder src with
    | (.ok .Insufficient, decoder, src) | (.ok (.InsufficientAtLeast _), decoder, src) =>
      decodeArriving target decoder (src ++ chunk) chunks
    | (result, _, _) => result

/-- In front of whatever follows, and at every decoder with this limit, this header is refused if it declares more
than the limit, and the frame that is returned has as many bytes as it declares. -/
def LengthEnforced (target : Target) (maxFrameSize : Option Nat) (header : FrameHeader) (length : Nat) : Prop :=
  ∀ (unmask acceptUnmasked : Bool) (src : List UInt8) (cursor : Cursor),
    FrameHeader.parse ⟨src, 0⟩ = (.ok (some (header, length)), cursor) →
    (∀ maxSize ∈ maxFrameSize, maxSize < length →
      ∃ size, (decode target (waiting maxFrameSize unmask acceptUnmasked) src).1 =
        .err (.Capacity (.MessageTooLong size maxSize))) ∧
    ∀ chunks frame,
      decodeArriving target (waiting maxFrameSize unmask acceptUnmasked) src chunks = .ok (.Some frame) →
        frame.payload.length = length

/-- A frame has as many bytes as were taken for its payload. -/
theorem length_of_finish {decoder : FrameDecoder} {header : FrameHeader} {payload : List UInt8} {frame : Frame}
    (made : decoder.finish header payload = .ok frame) : frame.payload.length = payload.length := by
  unfold finish at made
  split at made
  · split at made
    · cases made
      simp
    · split at made <;> cases made
      rfl
  · cases made
    rfl

theorem PayloadDecoded.length {decoder after : FrameDecoder} {header : FrameHeader} {len : Nat} {src rest : List UInt8}
    {frame : Frame} (decoded : PayloadDecoded decoder header len src (.ok (.Some frame), after, rest)) :
    frame.payload.length = len := by
  cases decoded with
  | frame split whole made => rw [length_of_finish made, whole]

/-- What calls return depends on what the first one does. -/
theorem decodeArriving_congr {target : Target} {left right : FrameDecoder} {src other : List UInt8}
    (same : decode target left src = decode target right other) (chunks : List (List UInt8)) :
    decodeArriving target left src chunks = decodeArriving target right other chunks := by
  cases chunks with
  | nil => rw [decodeArriving, decodeArriving, same]
  | cons chunk chunks => rw [decodeArriving, decodeArriving, same]

theorem decodeArriving_pending {target : Target} {decoder : FrameDecoder} {header : FrameHeader} {len : Nat}
    (held : decoder.header = some (header, len)) {chunks : List (List UInt8)} {src : List UInt8} {frame : Frame}
    (returned : decodeArriving target decoder src chunks = .ok (.Some frame)) : frame.payload.length = len := by
  induction chunks generalizing src with
  | nil =>
    have decoded := decodePayload_decoded held src
    rw [decodeArriving, decode_pending held] at returned
    generalize decodePayload decoder src = result at decoded returned
    obtain ⟨_, after, rest⟩ := result
    cases returned
    exact decoded.length
  | cons chunk chunks ih =>
    have decoded := decodePayload_decoded held src
    rw [decodeArriving, decode_pending held] at returned
    generalize decodePayload decoder src = result at decoded returned
    cases decoded with
    | short short => exact ih returned
    | frame split whole made =>
      cases returned
      rw [length_of_finish made, whole]
    | refused => cases returned

/-- A frame is returned for a header whose length is within the limit, as it is compared with it, and for which there
is room; and it has as many bytes as are left of the length. -/
theorem decodeArriving_started {target : Target} {decoder : FrameDecoder} (fresh : decoder.header = none)
    {bytes : FrameHeader.HeaderBytes} (known : bytes.opcode.isReserved = false) {rest : List UInt8}
    {chunks : List (List UInt8)} {frame : Frame}
    (returned : decodeArriving target decoder (bytes.toList ++ rest) chunks = .ok (.Some frame)) :
    frame.payload.length = target.asUsize bytes.length ∧
      (∀ maxSize ∈ decoder.maxFrameSize, target.asUsize bytes.length ≤ maxSize) ∧
      target.reserveFails rest.length (target.asUsize bytes.length) = false := by
  have started := decode_started target fresh known rest
  cases chunks with
  | nil =>
    rw [decodeArriving] at returned
    generalize decode target decoder (bytes.toList ++ rest) = result at started returned
    cases started with
    | tooLong | full => cases returned
    | room within room payload =>
      obtain ⟨_, after, left⟩ := result
      cases returned
      exact ⟨payload.length, within, room⟩
  | cons chunk chunks =>
    rw [decodeArriving] at returned
    generalize decode target decoder (bytes.toList ++ rest) = result at started returned
    cases started with
    | tooLong | full => cases returned
    | room within room payload =>
      refine ⟨?_, within, room⟩
      cases payload with
      | short short => exact decodeArriving_pending rfl returned
      | frame split whole made =>
        cases returned
        rw [length_of_finish made, whole]
      | refused => cases returned

/-- A client that holds a header gets its frame when the payload arrives. -/
theorem decodeArriving_whole {target : Target} {decoder : FrameDecoder} {header : FrameHeader} {payload : List UInt8}
    (held : decoder.header = some (header, payload.length)) (client : decoder.unmask = false) :
    decodeArriving target decoder [] [payload] = .ok (.Some ⟨header, payload⟩) := by
  have made : { decoder with header := none }.finish header payload = .ok ⟨header, payload⟩ :=
    if_neg (by rw [client]; exact Bool.false_ne_true)
  have last := decodePayload_whole held []
  rw [List.append_nil, made] at last
  rw [decodeArriving, decode_pending held]
  cases payload with
  | nil => rw [last]
  | cons byte payload =>
    have waits : decodePayload decoder [] = (.ok (.InsufficientAtLeast (byte :: payload).length), decoder, []) := by
      simp only [decodePayload, held]
      exact if_pos (Nat.succ_pos _)
    rw [waits]
    show decodeArriving target decoder ([] ++ byte :: payload) [] = _
    rw [List.nil_append, decodeArriving, decode_pending held, last]

/-- A header is refused as too long exactly if what is left of its length is over the limit. -/
theorem decode_tooLong_iff (target : Target) {decoder : FrameDecoder} (fresh : decoder.header = none)
    {bytes : FrameHeader.HeaderBytes} (known : bytes.opcode.isReserved = false) (rest : List UInt8) (maxSize : Nat) :
    (∃ size, (decode target decoder (bytes.toList ++ rest)).1 = .err (.Capacity (.MessageTooLong size maxSize))) ↔
      decoder.maxFrameSize = some maxSize ∧ maxSize < target.asUsize bytes.length := by
  have started := decode_started target fresh known rest
  generalize decode target decoder (bytes.toList ++ rest) = result at started ⊢
  cases started with
  | tooLong limit exceeds =>
    constructor
    · rintro ⟨size, same⟩
      cases same
      exact ⟨limit, exceeds⟩
    · rintro ⟨same, _⟩
      cases limit.symm.trans same
      exact ⟨_, rfl⟩
  | full within fails =>
    apply iff_of_false
    · rintro ⟨size, refused⟩
      cases refused
    · exact fun exceeds => absurd (within _ exceeds.1) (Nat.not_le.mpr exceeds.2)
  | room within room payload =>
    apply iff_of_false
    · rintro ⟨size, refused⟩
      cases payload <;> cases refused
    · exact fun exceeds => absurd (within _ exceeds.1) (Nat.not_le.mpr exceeds.2)

/-- Without a limit, a client that has room for a frame gets one of as many bytes as are left of its length. -/
theorem decodeArriving_unlimited {target : Target} {bytes : FrameHeader.HeaderBytes}
    (known : bytes.opcode.isReserved = false) (room : ¬ target.reserveFails 0 (target.asUsize bytes.length) = true) :
    ∃ chunks frame, decodeArriving target (waiting none false false) (bytes.toList ++ []) chunks = .ok (.Some frame) ∧
      frame.payload.length = target.asUsize bytes.length := by
  have pending : decode target (waiting none false false) (bytes.toList ++ []) =
      decode target { waiting none false false with header := some (bytes.header, target.asUsize bytes.length) } [] := by
    rw [decode_whole rfl, known, if_neg Bool.false_ne_true, decode_pending rfl]
    exact if_neg room
  have arrived := @decodeArriving_whole target
    { waiting none false false with header := some (bytes.header, target.asUsize bytes.length) } bytes.header
    (List.replicate (target.asUsize bytes.length) 0) (by rw [List.length_replicate]) rfl
  rw [← decodeArriving_congr pending] at arrived
  exact ⟨_, _, arrived, List.length_replicate⟩

/-- The length of a header is enforced exactly if it fits in a `usize`, or what is left of it is over the limit, or
there is no limit, and no room for what is left of it. -/
theorem length_enforced_iff (target : Target) {maxFrameSize : Option Nat}
    (sized : ∀ maxSize ∈ maxFrameSize, maxSize ≤ target.usizeMax) {header : FrameHeader}
    (known : header.opcode.isReserved = false) {length : Nat} (fits : length < 2 ^ 64) :
    LengthEnforced target maxFrameSize header length ↔
      length ≤ target.usizeMax ∨ (∃ maxSize ∈ maxFrameSize, maxSize < target.asUsize length) ∨
        (maxFrameSize = none ∧ target.reserveFails 0 (target.asUsize length) = true) := by
  constructor
  · intro enforced
    obtain ⟨bytes, known, rfl, rfl⟩ := FrameHeader.exists_headerBytes known fits
    obtain ⟨refuses, returns⟩ := enforced false false _ _ (FrameHeader.parse_known known [])
    by_cases whole : bytes.length ≤ target.usizeMax
    · exact .inl whole
    have shorter := target.asUsize_le bytes.length
    cases maxFrameSize with
    | some maxSize =>
      -- the limit is below the length, and so what is left of it must be over the limit
      have refused := refuses maxSize rfl (by have := sized maxSize rfl; omega)
      exact .inr (.inl ⟨maxSize, (decode_tooLong_iff target rfl known [] maxSize).mp refused⟩)
    | none =>
      refine .inr (.inr ⟨rfl, ?_⟩)
      by_contra room
      -- the frame is returned as soon as what is left of its length has arrived
      obtain ⟨chunks, frame, arrived, left⟩ := decodeArriving_unlimited known room
      have same := returns chunks frame arrived
      omega
  · intro condition unmask acceptUnmasked src cursor parsed
    obtain ⟨bytes, rest, rfl, read, rfl, rfl, _⟩ := FrameHeader.parsed_whole parsed
    constructor
    · intro maxSize limited exceeds
      rw [decode_tooLong_iff target rfl read]
      refine ⟨limited, ?_⟩
      rcases condition with whole | ⟨other, same, beyond⟩ | ⟨none, _⟩
      · rw [Target.asUsize_of_le whole]
        exact exceeds
      · cases limited.symm.trans same
        exact beyond
      · rw [none] at limited
        cases limited
    · intro chunks frame returned
      obtain ⟨length, within, room⟩ := decodeArriving_started rfl read returned
      rcases condition with whole | ⟨other, same, beyond⟩ | ⟨none, fails⟩
      · rw [length, Target.asUsize_of_le whole]
      · exact absurd (within other same) (Nat.not_le.mpr beyond)
      · rw [Target.reserveFails_mono (Nat.zero_le _) fails] at room
        cases room

/-- A length of more than 32 bits, at a decoder with 64 of them. -/
theorem length_enforced_iff_w64 :
    let header : FrameHeader := { FrameHeader.default with opcode := .Data .Binary }
    LengthEnforced (.physical .w64) (some (16 <<< 20)) header (2 ^ 32 + 1) ↔
      2 ^ 32 + 1 ≤ (Target.physical .w64).usizeMax ∨
        (∃ maxSize ∈ some (16 <<< 20), maxSize < (Target.physical .w64).asUsize (2 ^ 32 + 1)) ∨
        (some (16 <<< 20) = none ∧ (Target.physical .w64).reserveFails 0 ((Target.physical .w64).asUsize (2 ^ 32 + 1)) = true) :=
  length_enforced_iff (.physical .w64) (by intro maxSize limit; cases limit; decide) rfl (by decide)

/-- With 32 bits, a frame that declares four gigabytes and a byte passes the default limit as one of one byte. -/
theorem not_lengthEnforced_w32 :
    ¬ LengthEnforced (.physical .w32) (some (16 <<< 20)) { FrameHeader.default with opcode := .Data .Binary }
      (2 ^ 32 + 1) := by
  intro enforced
  obtain ⟨size, refused⟩ := (enforced false false [0x82, 0x7F, 0, 0, 0, 1, 0, 0, 0, 1, 0x61] _ rfl).1 (16 <<< 20) rfl
    (by decide)
  cases refused

/-! ## Room for a frame -/

/-- A header that is complete and within the limit has a length for which there is room behind what is buffered. -/
def HasRoom (width : PointerWidth) (decoder : FrameDecoder) (src : List UInt8) : Prop :=
  decoder.header = none → ∀ (header : FrameHeader) (length : Nat) (cursor : Cursor),
    FrameHeader.parse ⟨src, 0⟩ = (.ok (some (header, length)), cursor) →
    (∀ maxSize ∈ decoder.maxFrameSize, (Target.physical width).asUsize length ≤ maxSize) →
    src.length - cursor.position + (Target.physical width).asUsize length ≤ width.isizeMax

/-- A call returns a value or an error. -/
def Returns (width : PointerWidth) (decoder : FrameDecoder) (src : List UInt8) : Prop :=
  (∃ decoded, (decode (.physical width) decoder src).1 = .ok decoded) ∨
    ∃ error, (decode (.physical width) decoder src).1 = .err error

theorem PayloadDecoded.returns {decoder : FrameDecoder} {header : FrameHeader} {len : Nat} {src : List UInt8}
    {result : Result (Decoded Frame) × FrameDecoder × List UInt8}
    (decoded : PayloadDecoded decoder header len src result) :
    (∃ decoded, result.1 = .ok decoded) ∨ ∃ error, result.1 = .err error := by
  cases decoded with
  | short | frame => exact .inl ⟨_, rfl⟩
  | refused => exact .inr ⟨_, rfl⟩

theorem isCut_length_lt {src : List UInt8} (cut : FrameHeader.IsCut src) :
    src.length < FrameHeader.MAX_SIZE := by
  match src with
  | [] | [_] => simp [FrameHeader.MAX_SIZE]
  | _ :: second :: rest =>
    have short : rest.length + 2 < FrameHeader.sizeOf second := cut
    have field := FrameHeader.lengthSize_le second
    have mask : FrameHeader.maskSize second ≤ 4 := by
      unfold FrameHeader.maskSize
      split <;> omega
    rw [FrameHeader.sizeOf] at short
    simp only [List.length_cons, FrameHeader.MAX_SIZE]
    omega

theorem returns_cut (width : PointerWidth) {decoder : FrameDecoder} (fresh : decoder.header = none) {src : List UInt8}
    (cut : FrameHeader.IsCut src) : Returns width decoder src := by
  have small : width.isizeMax ≥ 2 * FrameHeader.MAX_SIZE := by cases width <;> decide
  have short := isCut_length_lt cut
  have room : ¬ (Target.physical width).reserveFails src.length FrameHeader.MAX_SIZE = true := by
    rw [Target.physical_reserveFails]
    omega
  refine .inl ⟨.Insufficient, ?_⟩
  rw [decode_cut fresh cut, if_neg room]

/-- There is no header to ask room for. -/
theorem hasRoom_of_not_parsed (width : PointerWidth) (decoder : FrameDecoder) {src : List UInt8}
    (none : ∀ read, (FrameHeader.parse ⟨src, 0⟩).1 ≠ .ok (some read)) : HasRoom width decoder src := by
  intro _ header length cursor parsed
  exact absurd (congrArg Prod.fst parsed) (none _)

/-- The length behind a complete header fits behind what is buffered, if it is within the limit. -/
def Fits (width : PointerWidth) (decoder : FrameDecoder) (bytes : FrameHeader.HeaderBytes) (rest : List UInt8) : Prop :=
  (∀ maxSize ∈ decoder.maxFrameSize, (Target.physical width).asUsize bytes.length ≤ maxSize) →
    rest.length + (Target.physical width).asUsize bytes.length ≤ width.isizeMax

theorem hasRoom_whole_iff (width : PointerWidth) {decoder : FrameDecoder} (fresh : decoder.header = none)
    {bytes : FrameHeader.HeaderBytes} (known : bytes.opcode.isReserved = false) (rest : List UInt8) :
    HasRoom width decoder (bytes.toList ++ rest) ↔ Fits width decoder bytes rest := by
  have parsed := FrameHeader.parse_known known rest
  have size : (bytes.toList ++ rest).length - bytes.toList.length = rest.length := by simp
  constructor
  · intro room within
    have fits := room fresh _ _ _ parsed within
    rwa [size] at fits
  · intro fits _ header length cursor read within
    cases parsed.symm.trans read
    rw [size]
    exact fits within

theorem returns_whole_iff (width : PointerWidth) {decoder : FrameDecoder} (fresh : decoder.header = none)
    {bytes : FrameHeader.HeaderBytes} (known : bytes.opcode.isReserved = false) (rest : List UInt8) :
    Returns width decoder (bytes.toList ++ rest) ↔ Fits width decoder bytes rest := by
  have started := decode_started (.physical width) fresh known rest
  rw [Returns]
  generalize decode (.physical width) decoder (bytes.toList ++ rest) = result at started ⊢
  cases started with
  | tooLong limit exceeds =>
    apply iff_of_true (.inr ⟨_, rfl⟩)
    exact fun within => absurd (within _ limit) (Nat.not_le.mpr exceeds)
  | full within fails =>
    rw [Target.physical_reserveFails] at fails
    apply iff_of_false
    · rintro (⟨_, returned⟩ | ⟨_, returned⟩) <;> cases returned
    · exact fun fits => Nat.not_le.mpr fails (fits within)
  | room within room payload =>
    apply iff_of_true payload.returns
    intro _
    have fits : ¬ width.isizeMax < rest.length + (Target.physical width).asUsize bytes.length := by
      rw [← Target.physical_reserveFails, room]
      exact Bool.false_ne_true
    exact Nat.not_lt.mp fits

/-- A call returns exactly if there is room for the frame whose header it reads. -/
theorem decode_returns_iff (width : PointerWidth) (decoder : FrameDecoder) (src : List UInt8) :
    Returns width decoder src ↔ HasRoom width decoder src := by
  cases held : decoder.header with
  | some pending =>
    apply iff_of_true
    · rw [Returns, decode_pending held]
      exact (decodePayload_decoded held src).returns
    · intro fresh
      rw [fresh] at held
      cases held
  | none =>
    by_cases cut : FrameHeader.IsCut src
    · apply iff_of_true (returns_cut width held cut)
      apply hasRoom_of_not_parsed
      rw [FrameHeader.parse_cut ⟨src, 0⟩ cut]
      intro read same
      cases same
    · obtain ⟨bytes, rest, rfl⟩ := FrameHeader.exists_whole cut
      cases known : bytes.opcode.isReserved with
      | true =>
        apply iff_of_true
        · refine .inr ⟨.Protocol (.InvalidOpcode (bytes.first &&& 0x0F)), ?_⟩
          rw [decode_whole held, if_pos known]
        · apply hasRoom_of_not_parsed
          rw [FrameHeader.parse_whole ⟨bytes.toList ++ rest, 0⟩ rfl, known, if_pos rfl]
          intro read same
          cases same
      | false => rw [returns_whole_iff width held known, hasRoom_whole_iff width held known]

/-- Without a limit, ten bytes that declare the longest payload make the decoder panic. -/
theorem not_returns_longest :
    ¬ Returns .w64 (waiting none true false) [0x82, 0x7F, 0xFF, 0xFF, 0xFF, 0xFF, 0xFF, 0xFF, 0xFF, 0xFF] ∧
      (decode (.physical .w64) (waiting none true false)
        [0x82, 0x7F, 0xFF, 0xFF, 0xFF, 0xFF, 0xFF, 0xFF, 0xFF, 0xFF]).1 = .panic .capacityOverflow := by
  have panics : (decode (.physical .w64) (waiting none true false)
      [0x82, 0x7F, 0xFF, 0xFF, 0xFF, 0xFF, 0xFF, 0xFF, 0xFF, 0xFF]).1 = .panic .capacityOverflow := rfl
  refine ⟨?_, panics⟩
  rintro (⟨_, returned⟩ | ⟨_, returned⟩) <;> rw [panics] at returned <;> cases returned

end FrameDecoder

end MonoioTungstenite
