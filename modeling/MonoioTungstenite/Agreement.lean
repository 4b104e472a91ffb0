import Mathlib.Data.List.Forall2
import MonoioTungstenite.Client
import MonoioTungstenite.Reference
import MonoioTungstenite.Server

/-! # The two sides of the handshake agree

What the client writes for an acceptable request, the server takes, and what the server answers, the client
takes (`handshake_agrees`).  The client writes the first value of each necessary header, and only that one, so
that both sides derive the key from the same line. -/

namespace MonoioTungstenite

open Lib (ascii lower)
open Lib.Head (Field)

/-! ## Looking up parsed lines -/

/-- The first value of a name on these lines. -/
def fieldNamed (fields : List Field) (name : List UInt8) : Option (List UInt8) :=
  (fields.find? fun field => lower field.1 = lower name).map Prod.snd

theorem fieldNamed_append {first second : List Field} {name value : List UInt8}
    (found : fieldNamed first name = some value) : fieldNamed (first ++ second) name = some value := by
  obtain ⟨field, first, same⟩ := Option.map_eq_some_iff.mp found
  rw [fieldNamed, List.find?_append, first]
  exact congrArg some same

/-- A map that was made of lines gives back what is on them. -/
theorem Matches.get {fields : List Field} {entries : List HeaderLine} (matched : Matches fields entries)
    (name : List UInt8) : ((HeaderMap.mk entries).get name).map HeaderValue.bytes = fieldNamed fields name := by
  unfold HeaderMap.get HeaderMap.named
  rw [List.head?_filter]
  induction matched with
  | nil => rfl
  | @cons field entry fields entries same matched ih =>
    rw [fieldNamed, List.find?_cons, List.find?_cons, same.1]
    cases named : decide (lower field.1 = lower name) with
    | true => exact congrArg some same.2
    | false => exact ih

theorem Matches.printable {fields : List Field} {entries : List HeaderLine} (matched : Matches fields entries)
    (values : ∀ field ∈ fields, Printable field.2) : ∀ entry ∈ entries, Printable entry.2.bytes := by
  induction matched with
  | nil => exact fun entry found => by cases found
  | @cons field entry fields entries same matched ih =>
    rw [List.forall_mem_cons] at values ⊢
    rw [same.2]
    exact ⟨values.1, ih values.2⟩

/-- The lines that iterating over a map yields. -/
def linesOf (lines : List HeaderLine) : List Field := lines.map fun line => (line.1.bytes, line.2.bytes)

theorem fieldNamed_linesOf (lines : List HeaderLine) (name : List UInt8) :
    fieldNamed (linesOf lines) name = ((HeaderMap.mk lines).get name).map HeaderValue.bytes := by
  apply (Matches.get _ name).symm
  unfold linesOf
  induction lines with
  | nil => exact .nil
  | cons line lines ih => exact .cons ⟨line.1.lowerCase.symm, rfl⟩ ih

/-- Whatever the order in which a map is iterated, the first value of a name stays the first. -/
theorem Iterates.fieldNamed {iter : HeaderMap → List HeaderLine} (iterates : Iterates iter) (headers : HeaderMap)
    (name : List UInt8) :
    fieldNamed (linesOf (iter headers)) name = (headers.get name).map HeaderValue.bytes := by
  rw [fieldNamed_linesOf]
  exact congrArg _ (HeaderMap.get_congr (iterates headers name))

theorem toStr_of_bytes {headers : HeaderMap} {name text : List UInt8}
    (found : (headers.get name).map HeaderValue.bytes = some text) (printable : Printable text) :
    (headers.get name).bind HeaderValue.toStr = some text := by
  obtain ⟨value, got, rfl⟩ := Option.map_eq_some_iff.mp found
  rw [got]
  exact value.toStr_printable printable

/-! ## The texts of the handshake -/

theorem printable_upgrade : Printable (ascii "Upgrade") := by decide

theorem printable_websocket : Printable (ascii "websocket") := by decide

theorem websocketHeaders_tokens : ∀ name ∈ Client.WEBSOCKET_HEADERS, IsToken name := by decide

theorem websocketHeaders_distinct :
    Client.WEBSOCKET_HEADERS.Pairwise fun left right => lower left ≠ lower right := by decide

/-- A line of a map can be written. -/
theorem writable_line {name : HeaderName} {value : HeaderValue} (printable : Printable value.bytes) :
    Writable (name.bytes, value.bytes) := ⟨name.isToken, printable⟩

/-! ## What the client writes -/

namespace Client

/-- What is left in a map when these headers are taken out of it. -/
def without (names : List (List UInt8)) (headers : HeaderMap) : HeaderMap :=
  ⟨headers.entries.filter fun line => ¬ (names.map lower).contains line.1.bytes⟩

theorem without_cons (name : List UInt8) (names : List (List UInt8)) (headers : HeaderMap) :
    without names (headers.remove name).2 = without (name :: names) headers := by
  unfold without HeaderMap.remove
  rw [List.filter_filter]
  apply congrArg
  apply List.filter_congr
  intro line _
  by_cases same : line.1.bytes = lower name <;> simp [same]

/-- The first value of each of these headers. -/
def firstValues (names : List (List UInt8)) (headers : HeaderMap) : List Field :=
  names.filterMap fun name => (headers.get name).map fun value => (name, value.bytes)

theorem firstValues_congr {names : List (List UInt8)} {left right : HeaderMap}
    (same : ∀ name ∈ names, left.get name = right.get name) : firstValues names left = firstValues names right := by
  apply List.filterMap_congr
  intro name found
  rw [same name found]

/-- The header is there, and `to_str` takes its first value. -/
def Readable (headers : HeaderMap) (name : List UInt8) : Prop := ∃ value, headers.get name = some value ∧ value.Legible

/-- The header is there, and its first value can be written. -/
def Present (headers : HeaderMap) (name : List UInt8) : Prop :=
  ∃ value, headers.get name = some value ∧ Printable value.bytes

theorem Present.readable {headers : HeaderMap} {name : List UInt8} (present : Present headers name) :
    Readable headers name :=
  present.imp fun _ ⟨found, printable⟩ => ⟨found, HeaderValue.legible_of_printable printable⟩

/-- Taking out one header leaves the first values of the others as they were. -/
theorem get_remove {name : List UInt8} {names : List (List UInt8)} (headers : HeaderMap)
    (distinct : ∀ other ∈ names, lower name ≠ lower other) :
    ∀ other ∈ names, (headers.remove name).2.get other = headers.get other :=
  fun other listed => HeaderMap.get_congr (HeaderMap.named_remove (distinct other listed).symm)

/-- Writing the necessary headers succeeds exactly if they are all there and can be read, and takes them out of the
map. -/
theorem writeHeaders_ok_iff {names : List (List UInt8)} {headers : HeaderMap}
    (distinct : names.Pairwise fun left right => lower left ≠ lower right) {result : List UInt8 × HeaderMap} :
    writeHeaders names headers = .ok result ↔
      (∀ name ∈ names, Readable headers name) ∧
        result = (Lib.Head.fieldLines (firstValues names headers), without names headers) := by
  induction names generalizing headers result with
  | nil =>
    have all : without [] headers = headers := by simp [without]
    simp [writeHeaders, firstValues, all, eq_comm]
  | cons name names ih =>
    rw [List.pairwise_cons] at distinct
    rw [List.forall_mem_cons]
    have kept := get_remove headers distinct.1
    have others : (∀ other ∈ names, Readable (headers.remove name).2 other) ↔ ∀ other ∈ names, Readable headers other :=
      forall₂_congr fun other listed => by rw [Readable, Readable, kept other listed]
    have behind : ∀ {result}, _ := @ih (headers.remove name).2 distinct.2
    rw [firstValues_congr kept, without_cons, others] at behind
    cases found : headers.get name with
    | none =>
      have removed : headers.remove name = (none, (headers.remove name).2) := Prod.ext found rfl
      rw [writeHeaders, removed]
      simp [Readable, found]
    | some value =>
      have removed : headers.remove name = (some value, (headers.remove name).2) := Prod.ext found rfl
      rw [writeHeaders, removed]
      by_cases legible : value.Legible
      · have first : firstValues (name :: names) headers = (name, value.bytes) :: firstValues names headers := by
          simp [firstValues, found]
        have readable : Readable headers name := ⟨value, found, legible⟩
        simp only [HeaderValue.toStr_of_legible legible, first, Lib.Head.fieldLines_cons]
        cases run : writeHeaders names (headers.remove name).2 with
        | error error =>
          have fails : ¬ ∀ other ∈ names, Readable headers other := fun all => by
            cases run.symm.trans (behind.mpr ⟨all, rfl⟩)
          simp [Except.map, fails]
        | ok written =>
          obtain ⟨all, rfl⟩ := behind.mp run
          simp only [Except.map, Except.ok.injEq]
          exact ⟨fun same => ⟨⟨readable, all⟩, same.symm⟩, fun same => same.2.symm⟩
      · have fails : ¬ Readable headers name := by
          rintro ⟨other, same, legible'⟩
          cases found.symm.trans same
          exact legible legible'
        simp [HeaderValue.toStr_of_not_legible legible, fails]

/-- Headers that are there take up lines of the map. -/
theorem length_without {names : List (List UInt8)} {headers : HeaderMap}
    (distinct : names.Pairwise fun left right => lower left ≠ lower right)
    (present : ∀ name ∈ names, (headers.get name).isSome = true) :
    (without names headers).entries.length + names.length ≤ headers.entries.length := by
  induction names generalizing headers with
  | nil => simp [without]
  | cons name names ih =>
    rw [List.pairwise_cons] at distinct
    rw [List.forall_mem_cons] at present
    obtain ⟨value, found⟩ := Option.isSome_iff_exists.mp present.1
    have kept := get_remove headers distinct.1
    have shorter := HeaderMap.length_remove found
    have length := ih distinct.2 fun other listed => by rw [kept other listed]; exact present.2 other listed
    rw [without_cons] at length
    rw [List.length_cons]
    omega

theorem writeHeaders_ok {names : List (List UInt8)} {headers : HeaderMap}
    (distinct : names.Pairwise fun left right => lower left ≠ lower right)
    (present : ∀ name ∈ names, Present headers name) :
    writeHeaders names headers =
        .ok (Lib.Head.fieldLines (firstValues names headers), without names headers) ∧
      (without names headers).entries.length + names.length ≤ headers.entries.length := by
  constructor
  · exact (writeHeaders_ok_iff distinct).mpr ⟨fun name listed => (present name listed).readable, rfl⟩
  · apply length_without distinct
    intro name listed
    obtain ⟨value, found, _⟩ := present name listed
    rw [found]
    rfl

/-- The lines for the headers that are left. -/
def restFields (lines : List HeaderLine) : List Field := lines.map fun line => (writtenName line.1, line.2.bytes)

/-- Writing the other headers succeeds exactly if there is no necessary one among them and they can all be read. -/
theorem writeRest_ok_iff {lines : List HeaderLine} {buf : List UInt8} :
    writeRest lines = .ok buf ↔
      (∀ line ∈ lines, line.1.bytes ∉ WEBSOCKET_HEADERS.map lower ∧ line.2.Legible) ∧
        buf = Lib.Head.fieldLines (restFields lines) := by
  induction lines generalizing buf with
  | nil => simp [writeRest, restFields, eq_comm]
  | cons line lines ih =>
    obtain ⟨name, value⟩ := line
    rw [writeRest, List.forall_mem_cons]
    by_cases necessary : name.bytes ∈ WEBSOCKET_HEADERS.map lower
    · rw [if_pos (by simpa using necessary)]
      simp [necessary]
    · rw [if_neg (by simpa using necessary)]
      by_cases legible : value.Legible
      · simp only [HeaderValue.toStr_of_legible legible]
        cases run : writeRest lines with
        | error error =>
          have fails : ¬ ∀ line ∈ lines, line.1.bytes ∉ WEBSOCKET_HEADERS.map lower ∧ line.2.Legible := fun all => by
            cases run.symm.trans (ih.mpr ⟨all, rfl⟩)
          simp only [Except.map, reduceCtorEq, false_iff]
          exact fun same => fails same.1.2
        | ok written =>
          obtain ⟨all, rfl⟩ := ih.mp run
          simp only [Except.map, Except.ok.injEq]
          exact ⟨fun same => ⟨⟨⟨necessary, legible⟩, all⟩, same.symm⟩, fun same => same.2.symm⟩
      · simp [HeaderValue.toStr_of_not_legible legible, legible]

theorem writtenName_token (name : HeaderName) : IsToken (writtenName name) := by
  unfold writtenName
  split
  · decide
  · split
    · decide
    · exact name.isToken

/-- The lines of a request. -/
def requestFields (crates : Crates) (headers : HeaderMap) : List Field :=
  firstValues WEBSOCKET_HEADERS headers ++ restFields (crates.iter (without WEBSOCKET_HEADERS headers))

theorem requestFields_ok {crates : Crates} (iterates : Iterates crates.iter) {headers : HeaderMap}
    (present : ∀ name ∈ WEBSOCKET_HEADERS, Present headers name)
    (printable : ∀ line ∈ headers.entries, Printable line.2.bytes) :
    (∀ field ∈ requestFields crates headers, Writable field) ∧
      (requestFields crates headers).length ≤ headers.entries.length ∧
      ∀ line ∈ crates.iter (without WEBSOCKET_HEADERS headers),
        line.1.bytes ∉ WEBSOCKET_HEADERS.map lower ∧ Printable line.2.bytes := by
  have perm := iterates.perm (without WEBSOCKET_HEADERS headers)
  have left : ∀ line ∈ crates.iter (without WEBSOCKET_HEADERS headers),
      line.1.bytes ∉ WEBSOCKET_HEADERS.map lower ∧ Printable line.2.bytes := by
    intro line found
    have listed := List.mem_filter.mp (perm.mem_iff.mp found)
    exact ⟨by simpa using listed.2, printable line listed.1⟩
  refine ⟨?_, ?_, left⟩
  · intro field found
    cases List.mem_append.mp found with
    | inl first =>
      obtain ⟨name, listed, same⟩ := List.mem_filterMap.mp first
      obtain ⟨value, got, rfl⟩ := Option.map_eq_some_iff.mp same
      obtain ⟨line, inMap, _, rfl⟩ := HeaderMap.get_mem got
      exact ⟨websocketHeaders_tokens name listed, printable line inMap⟩
    | inr rest =>
      obtain ⟨line, listed, rfl⟩ := List.mem_map.mp rest
      exact ⟨writtenName_token line.1, (left line listed).2⟩
  · have length := (writeHeaders_ok websocketHeaders_distinct present).2
    have first : (firstValues WEBSOCKET_HEADERS headers).length ≤ WEBSOCKET_HEADERS.length :=
      List.length_filterMap_le _ _
    rw [requestFields, List.length_append, restFields, List.length_map, perm.length_eq]
    omega

/-- A request can be written: it has a target, the necessary headers are there, and what is written of the headers can
be read. -/
structure Sendable (request : Request) (path : PathAndQuery) : Prop where
  target : request.uri.pathAndQuery = some path
  necessary : ∀ name ∈ WEBSOCKET_HEADERS, Readable request.headers name
  others : ∀ line ∈ request.headers.entries, line.1.bytes ∉ WEBSOCKET_HEADERS.map lower → line.2.Legible

/-- The request that is written: the first value of each necessary header, and the other headers. -/
theorem generateRequest_ok_iff {crates : Crates} (iterates : Iterates crates.iter) {request : Request}
    {sent : List UInt8} :
    generateRequest crates request = .ok sent ↔ ∃ path, Sendable request path ∧
      sent = Lib.Head.write (requestLine path request.version) (requestFields crates request.headers) := by
  cases target : request.uri.pathAndQuery with
  | none =>
    rw [generateRequest, target]
    simp only [reduceCtorEq, false_iff]
    rintro ⟨path, sendable, _⟩
    cases target.symm.trans sendable.target
  | some path =>
    have perm := iterates.perm (without WEBSOCKET_HEADERS request.headers)
    -- what is left in the map is iterated in some order, and has no necessary header in it
    have left : (∀ line ∈ crates.iter (without WEBSOCKET_HEADERS request.headers),
          line.1.bytes ∉ WEBSOCKET_HEADERS.map lower ∧ line.2.Legible) ↔
        ∀ line ∈ request.headers.entries, line.1.bytes ∉ WEBSOCKET_HEADERS.map lower → line.2.Legible := by
      constructor
      · intro all line listed other
        exact (all line (perm.mem_iff.mpr (List.mem_filter.mpr ⟨listed, by simpa using other⟩))).2
      · intro all line found
        obtain ⟨listed, other⟩ := List.mem_filter.mp (perm.mem_iff.mp found)
        have other : line.1.bytes ∉ WEBSOCKET_HEADERS.map lower := by simpa using other
        exact ⟨other, all line listed other⟩
    rw [generateRequest, target]
    simp only [bind, Except.bind]
    cases required : writeHeaders WEBSOCKET_HEADERS request.headers with
    | error error =>
      simp only [reduceCtorEq, false_iff]
      rintro ⟨_, sendable, _⟩
      cases required.symm.trans ((writeHeaders_ok_iff websocketHeaders_distinct).mpr ⟨sendable.necessary, rfl⟩)
    | ok written =>
      obtain ⟨readable, rfl⟩ := (writeHeaders_ok_iff websocketHeaders_distinct).mp required
      simp only []
      cases rest : writeRest (crates.iter (without WEBSOCKET_HEADERS request.headers)) with
      | error error =>
        simp only [reduceCtorEq, false_iff]
        rintro ⟨_, sendable, _⟩
        cases rest.symm.trans (writeRest_ok_iff.mpr ⟨left.mpr sendable.others, rfl⟩)
      | ok behind =>
        obtain ⟨others, rfl⟩ := writeRest_ok_iff.mp rest
        have same : ascii "GET " ++ path.asStr ++ ascii " " ++ request.version.text ++ ascii "\r\n" ++
            Lib.Head.fieldLines (firstValues WEBSOCKET_HEADERS request.headers) ++
            Lib.Head.fieldLines (restFields (crates.iter (without WEBSOCKET_HEADERS request.headers))) ++
            ascii "\r\n" =
            Lib.Head.write (requestLine path request.version) (requestFields crates request.headers) := by
          simp [Lib.Head.write, requestLine, requestFields, Lib.Head.crlf, ascii]
        simp only [pure, Except.pure, Except.ok.injEq]
        rw [same]
        constructor
        · rintro rfl
          exact ⟨path, ⟨target, readable, left.mp others⟩, rfl⟩
        · rintro ⟨other, sendable, rfl⟩
          cases target.symm.trans sendable.target
          rfl

theorem generateRequest_ok {crates : Crates} (iterates : Iterates crates.iter) {request : Request}
    {path : PathAndQuery} (target : request.uri.pathAndQuery = some path)
    (present : ∀ name ∈ WEBSOCKET_HEADERS, Present request.headers name)
    (printable : ∀ line ∈ request.headers.entries, Printable line.2.bytes) :
    generateRequest crates request =
      .ok (Lib.Head.write (requestLine path request.version) (requestFields crates request.headers)) := by
  apply (generateRequest_ok_iff iterates).mpr
  refine ⟨path, ⟨target, fun name listed => (present name listed).readable, ?_⟩, rfl⟩
  exact fun line listed _ => HeaderValue.legible_of_printable (printable line listed)

end Client

/-! ## What the server makes of it -/

namespace Server

theorem decodeRequest_ok {crates : Crates} (documented : crates.RequestsDocumented) {path : PathAndQuery}
    (absolute : path.Absolute) {fields : List Field} (writable : ∀ field ∈ fields, Writable field)
    (few : fields.length ≤ MAX_HEADERS) :
    ∃ received, decodeRequest crates (Lib.Head.write (requestLine path .HTTP_11) fields) =
        .ok (.Some ((Lib.Head.write (requestLine path .HTTP_11) fields).length, received)) ∧
      received.method = ascii "GET" ∧ received.version = .HTTP_11 ∧
      received.uri.pathAndQuery.map PathAndQuery.asStr = some path.asStr ∧
      ∀ name, (received.headers.get name).map HeaderValue.bytes = fieldNamed fields name := by
  obtain ⟨entries, matched, run⟩ := HeaderMap.appendHttparse_writable writable HeaderMap.new
  obtain ⟨uri, parsed, target⟩ := documented.uri path absolute
  refine ⟨⟨ascii "GET", uri, .HTTP_11, ⟨entries⟩⟩, ?_, rfl, rfl, target, matched.get⟩
  have converted : Request.fromHttparse crates ⟨ascii "GET", path.asStr, 1, fields⟩ =
      .ok ⟨ascii "GET", uri, .HTTP_11, ⟨entries⟩⟩ := by
    rw [Request.fromHttparse, if_neg (not_not_intro rfl), if_neg (Nat.lt_irrefl 1), HeaderMap.fromHttparse,
      run]
    simp only [bind, Except.bind, parsed, pure, Except.pure]
    rfl
  rw [decodeRequest, documented.request MAX_HEADERS path fields absolute few writable, decodeHead, converted]
  rfl

/-- The value has this word, between blanks and commas and without regard to case. -/
def HasToken (value token : List UInt8) : Prop :=
  ∃ before word after, value = before ++ word ++ after ∧ lower word = lower token ∧
    Lib.BeginsAt (fun byte => byte = 32 || byte = 44) before ∧ Lib.EndsAt (fun byte => byte = 32 || byte = 44) after

/-- A byte that does not end a word. -/
def isWordByte (byte : UInt8) : Bool := byte ≠ 32 && byte ≠ 44

theorem isWordByte_lowerByte (byte : UInt8) : isWordByte (Lib.lowerByte byte) = isWordByte byte := by
  apply @Lib.forall_byte fun byte => isWordByte (Lib.lowerByte byte) = isWordByte byte
  decide +kernel

theorem hasWord_of_hasToken {value token : List UInt8} (solid : token.all isWordByte = true)
    (hasToken : HasToken value token) : hasWord value token = true := by
  obtain ⟨before, word, after, rfl, same, begins, ends⟩ := hasToken
  have whole : word.all isWordByte = true := by
    rw [← Lib.all_lower isWordByte_lowerByte, same, Lib.all_lower isWordByte_lowerByte]
    exact solid
  apply List.any_eq_true.mpr
  refine ⟨word, Lib.mem_splitOnP ?_ begins ends, by simpa [Lib.eqIgnoreCase] using same⟩
  intro byte found
  simpa [isWordByte] using List.all_eq_true.mp whole byte found

theorem Builder.header_ok {name value : List UInt8} (writable : Writable (name, value)) (status : StatusCode)
    (version : Version) (headers : HeaderMap) :
    ∃ (headerName : HeaderName) (headerValue : HeaderValue), headerName.bytes = lower name ∧
      headerValue.bytes = value ∧
      Builder.header name value (.ok (status, version, headers)) =
        .ok (status, version, headers.append headerName headerValue) := by
  obtain ⟨headerName, named, lowered⟩ := HeaderName.fromBytes_token writable.1
  obtain ⟨headerValue, valued, same⟩ := HeaderValue.fromBytes_printable writable.2
  refine ⟨headerName, headerValue, lowered, same, ?_⟩
  simp [Builder.header, bind, Except.bind, named, valued, pure, Except.pure]

/-- The lines of the answer to a request with this key. -/
def responseFields (crates : Crates) (key : List UInt8) : List Field :=
  [(ascii "Connection", ascii "Upgrade"), (ascii "Upgrade", ascii "websocket"),
    (ascii "Sec-WebSocket-Accept", deriveAcceptKey crates key)]

theorem responseFields_writable {crates : Crates} (encodes : Encodes crates.base64) (key : List UInt8) :
    ∀ field ∈ responseFields crates key, Writable field := by
  simp only [responseFields, List.forall_mem_cons]
  have connection : IsToken (ascii "Connection") := by decide
  have upgrade : IsToken (ascii "Upgrade") := by decide
  have accept : IsToken (ascii "Sec-WebSocket-Accept") := by decide
  exact ⟨⟨connection, printable_upgrade⟩, ⟨upgrade, printable_websocket⟩,
    ⟨accept, printable_of_base64 (encodes _)⟩, fun field found => by cases found⟩

/-- The answer to a request that asks for what it should ask for. -/
theorem createResponse_ok {crates : Crates} (encodes : Encodes crates.base64) {received : Request}
    {connection upgrade key : List UInt8} (method : received.method = ascii "GET")
    (version : received.version = .HTTP_11)
    (connects : (received.headers.get (ascii "Connection")).bind HeaderValue.toStr = some connection)
    (hasToken : HasToken connection (ascii "Upgrade"))
    (upgrades : (received.headers.get (ascii "Upgrade")).bind HeaderValue.toStr = some upgrade)
    (websocket : lower upgrade = ascii "websocket")
    (versioned : (received.headers.get (ascii "Sec-WebSocket-Version")).map HeaderValue.bytes = some (ascii "13"))
    (keyed : (received.headers.get (ascii "Sec-WebSocket-Key")).map HeaderValue.bytes = some key) :
    ∃ response, createResponse crates received = .ok response ∧ response.status = .SWITCHING_PROTOCOLS ∧
      response.version = .HTTP_11 ∧
      Matches (responseFields crates key) response.headers.entries := by
  obtain ⟨keyValue, found, rfl⟩ := Option.map_eq_some_iff.mp keyed
  obtain ⟨versionValue, versionFound, thirteen⟩ := Option.map_eq_some_iff.mp versioned
  have writable := responseFields_writable encodes keyValue.bytes
  simp only [responseFields, List.forall_mem_cons] at writable
  -- the builder takes the three lines one after the other
  obtain ⟨firstName, firstValue, firstNamed, firstValued, first⟩ :=
    Builder.header_ok writable.1 .SWITCHING_PROTOCOLS .HTTP_11 .new
  obtain ⟨secondName, secondValue, secondNamed, secondValued, second⟩ :=
    Builder.header_ok writable.2.1 .SWITCHING_PROTOCOLS .HTTP_11 (HeaderMap.new.append firstName firstValue)
  obtain ⟨thirdName, thirdValue, thirdNamed, thirdValued, third⟩ :=
    Builder.header_ok writable.2.2.1 .SWITCHING_PROTOCOLS .HTTP_11
      ((HeaderMap.new.append firstName firstValue).append secondName secondValue)
  have parts : createParts crates received = .ok (.ok (.SWITCHING_PROTOCOLS, .HTTP_11,
      ((HeaderMap.new.append firstName firstValue).append secondName secondValue).append thirdName thirdValue)) := by
    have word := hasWord_of_hasToken (by decide) hasToken
    have same : Lib.eqIgnoreCase upgrade (ascii "websocket") = true := by
      simpa [Lib.eqIgnoreCase] using websocket.trans (by decide)
    rw [createParts, method, version, connects, upgrades, versionFound, found]
    simp only [Option.any_some, word, same, thirteen, Version.rank]
    simp [first, second, third]
  refine ⟨_, by rw [createResponse, parts]; rfl, rfl, rfl, ?_⟩
  exact .cons ⟨firstNamed, firstValued⟩ (.cons ⟨secondNamed, secondValued⟩
    (.cons ⟨thirdNamed, thirdValued⟩ .nil))

/-- The reason that is written for a status. -/
def reasonOf (crates : Crates) (status : StatusCode) : List UInt8 :=
  (crates.canonicalReason status).getD (ascii "<unknown status code>")

theorem generateResponse_eq {β : Type} (crates : Crates) (resp : MonoioTungstenite.Response β) :
    generateResponse crates resp =
      Lib.Head.write (statusLine resp.version resp.status (reasonOf crates resp.status))
        (linesOf (crates.iter resp.headers)) := by
  have lines : generateResponse crates resp = resp.version.text ++ ascii " " ++ statusText crates resp.status ++
      ascii "\r\n" ++ Lib.Head.fieldLines (linesOf (crates.iter resp.headers)) ++ ascii "\r\n" := by
    rw [generateResponse, Lib.Head.fieldLines, linesOf, List.flatMap_map]
    rfl
  rw [lines]
  simp [Lib.Head.write, statusLine, statusText, reasonOf, Lib.Head.crlf, ascii]

theorem reasonOf_printable {crates : Crates} (documented : crates.Documented) (status : StatusCode) :
    (reasonOf crates status).all isPrintable = true := by
  unfold reasonOf
  cases named : crates.canonicalReason status with
  | none => decide
  | some reason => exact documented.reason status reason named

end Server

/-! ## What the client makes of the answer -/

namespace Client

theorem decodeResponse_ok {crates : Crates} (documented : crates.Documented) (status : StatusCode)
    {reason : List UInt8} (printable : reason.all isPrintable = true) {fields : List Field}
    (writable : ∀ field ∈ fields, Writable field) (few : fields.length ≤ MAX_HEADERS) :
    ∃ returned, decodeResponse crates (Lib.Head.write (statusLine .HTTP_11 status reason) fields) =
        .ok (.Some ((Lib.Head.write (statusLine .HTTP_11 status reason) fields).length, returned)) ∧
      returned.status = status ∧
      ∀ name, (returned.headers.get name).map HeaderValue.bytes = fieldNamed fields name := by
  obtain ⟨entries, matched, run⟩ := HeaderMap.appendHttparse_writable writable HeaderMap.new
  have same : StatusCode.fromU16 status.code = some status := dif_pos ⟨status.least, status.most⟩
  refine ⟨⟨status, .HTTP_11, ⟨entries⟩, none⟩, ?_, rfl, matched.get⟩
  have converted : Response.fromHttparse ⟨1, status.code, fields⟩ = .ok ⟨status, .HTTP_11, ⟨entries⟩, none⟩ := by
    rw [Response.fromHttparse, if_neg (Nat.lt_irrefl 1), HeaderMap.fromHttparse, run]
    simp only [bind, Except.bind, same, pure, Except.pure]
    rfl
  rw [decodeResponse, documented.response MAX_HEADERS status reason fields printable few writable, decodeHead,
    converted]
  rfl

theorem headerIs_of_bytes {headers : HeaderMap} {name value text : List UInt8}
    (found : (headers.get name).map HeaderValue.bytes = some value) (printable : Printable value)
    (same : lower value = lower text) : headerIs headers name text = true := by
  rw [headerIs, toStr_of_bytes found printable]
  simpa [Lib.eqIgnoreCase] using same

theorem verifyResponse_ok {data : VerifyData} {resp : Response} (status : resp.status = .SWITCHING_PROTOCOLS)
    (upgrades : (resp.headers.get (ascii "Upgrade")).map HeaderValue.bytes = some (ascii "websocket"))
    (connects : (resp.headers.get (ascii "Connection")).map HeaderValue.bytes = some (ascii "Upgrade"))
    (accepts : (resp.headers.get (ascii "Sec-WebSocket-Accept")).map HeaderValue.bytes = some data.acceptKey)
    (noProtocol : (resp.headers.get (ascii "Sec-WebSocket-Protocol")).map HeaderValue.bytes = none)
    (noneAsked : data.subprotocols = none) : data.verifyResponse resp = .ok resp := by
  have upgrade := headerIs_of_bytes upgrades printable_websocket rfl
  have connection := headerIs_of_bytes connects printable_upgrade rfl
  have none : resp.headers.get (ascii "Sec-WebSocket-Protocol") = none := Option.map_eq_none_iff.mp noProtocol
  obtain ⟨value, found, same⟩ := Option.map_eq_some_iff.mp accepts
  have unprotocolled : data.verifySubprotocol resp.headers = .ok () := by
    rw [VerifyData.verifySubprotocol, none, noneAsked]
  rw [VerifyData.verifyResponse]
  simp only [status, upgrade, connection, found, unprotocolled, Option.any_some, same]
  simp [Except.map]

end Client

/-! ## Both sides -/

/-- A request for a handshake that asks for no subprotocol.  Of headers that are there more than once, the first
value counts. -/
structure Acceptable (request : Request) : Prop where
  method : request.method = ascii "GET"
  version : request.version = .HTTP_11
  scheme : request.uri.scheme = some (ascii "ws") ∨ request.uri.scheme = some (ascii "wss")
  target : ∃ path, request.uri.pathAndQuery = some path ∧ path.Absolute
  host : (request.headers.get (ascii "Host")).isSome = true
  connection : ∃ value, request.headers.get (ascii "Connection") = some value ∧
    Server.HasToken value.bytes (ascii "Upgrade")
  upgrade : ∃ value, request.headers.get (ascii "Upgrade") = some value ∧ lower value.bytes = ascii "websocket"
  wsVersion : ∃ value, request.headers.get (ascii "Sec-WebSocket-Version") = some value ∧ value.bytes = ascii "13"
  key : (request.headers.get (ascii "Sec-WebSocket-Key")).isSome = true
  noProtocol : request.headers.get (ascii "Sec-WebSocket-Protocol") = none
  printable : ∀ line ∈ request.headers.entries, Printable line.2.bytes
  few : request.headers.entries.length ≤ MAX_HEADERS

/-- The necessary headers of an acceptable request, as the client writes them. -/
theorem Acceptable.firstValues {request : Request} (acceptable : Acceptable request) :
    (∀ name ∈ Client.WEBSOCKET_HEADERS, Client.Present request.headers name) ∧
    ∃ host connection upgrade key : HeaderValue, request.headers.get (ascii "Sec-WebSocket-Key") = some key ∧
      Printable connection.bytes ∧ Printable upgrade.bytes ∧ Printable key.bytes ∧
      Server.HasToken connection.bytes (ascii "Upgrade") ∧ lower upgrade.bytes = ascii "websocket" ∧
      Client.firstValues Client.WEBSOCKET_HEADERS request.headers =
        [(ascii "Host", host.bytes), (ascii "Connection", connection.bytes), (ascii "Upgrade", upgrade.bytes),
          (ascii "Sec-WebSocket-Version", ascii "13"), (ascii "Sec-WebSocket-Key", key.bytes)] := by
  have printable : ∀ {name value}, request.headers.get name = some value → Printable value.bytes := by
    intro name value found
    obtain ⟨line, listed, _, rfl⟩ := HeaderMap.get_mem found
    exact acceptable.printable line listed
  obtain ⟨host, hosted⟩ := Option.isSome_iff_exists.mp acceptable.host
  obtain ⟨connection, connects, hasToken⟩ := acceptable.connection
  obtain ⟨upgrade, upgrades, websocket⟩ := acceptable.upgrade
  obtain ⟨version, versioned, thirteen⟩ := acceptable.wsVersion
  obtain ⟨key, keyed⟩ := Option.isSome_iff_exists.mp acceptable.key
  constructor
  · intro name listed
    simp only [Client.WEBSOCKET_HEADERS, Client.KEY_HEADERNAME, List.mem_cons, List.not_mem_nil, or_false] at listed
    rcases listed with rfl | rfl | rfl | rfl | rfl
    · exact ⟨host, hosted, printable hosted⟩
    · exact ⟨connection, connects, printable connects⟩
    · exact ⟨upgrade, upgrades, printable upgrades⟩
    · exact ⟨version, versioned, printable versioned⟩
    · exact ⟨key, keyed, printable keyed⟩
  · refine ⟨host, connection, upgrade, key, keyed, printable connects, printable upgrades, printable keyed, hasToken,
      websocket, ?_⟩
    simp [Client.firstValues, Client.WEBSOCKET_HEADERS, Client.KEY_HEADERNAME, hosted, connects, upgrades, versioned,
      keyed, thirteen]

/-- The client opens an acceptable handshake with the request that it writes. -/
theorem Acceptable.openHandshake {crates : Crates} {request : Request} (acceptable : Acceptable request)
    {key : HeaderValue} (keyed : request.headers.get (ascii "Sec-WebSocket-Key") = some key)
    (printable : Printable key.bytes) {sent : List UInt8} (generated : Client.generateRequest crates request = .ok sent) :
    Client.openHandshake crates request = .ok (⟨deriveAcceptKey crates key.bytes, none⟩, sent) := by
  have mode : ∃ mode, Client.uriMode request.uri = .ok mode := by
    unfold Client.uriMode
    cases acceptable.scheme with
    | inl ws => exact ⟨_, if_pos ws⟩
    | inr wss => rw [wss]; exact ⟨.Tls, by decide⟩
  obtain ⟨mode, uri⟩ := mode
  have subprotocols : Client.extractSubprotocols request = .ok none := by
    rw [Client.extractSubprotocols, acceptable.noProtocol]
  have asked : Client.getWebsocketKey request = .ok key.bytes := by
    rw [Client.getWebsocketKey, show request.headers.get Client.KEY_HEADERNAME = some key from keyed]
    simp only [key.toStr_printable printable]
  rw [Client.openHandshake, if_neg (not_not_intro acceptable.method), acceptable.version, if_neg (by decide)]
  simp only [bind, Except.bind, uri, subprotocols, asked, generated, pure, Except.pure]

/-- The lines of the response can be written, in whatever order the map yields them. -/
theorem responseLines_ok {crates : Crates} (documented : crates.Documented) {key : List UInt8} {headers : HeaderMap}
    (matched : Matches (Server.responseFields crates key) headers.entries) :
    (∀ field ∈ linesOf (crates.iter headers), Writable field) ∧
      (linesOf (crates.iter headers)).length ≤ MAX_HEADERS := by
  have perm := documented.iter.perm headers
  have printable := matched.printable fun field found =>
    (Server.responseFields_writable documented.base64 _ field found).2
  constructor
  · intro field found
    obtain ⟨line, listed, rfl⟩ := List.mem_map.mp found
    exact writable_line (printable line (perm.mem_iff.mp listed))
  · rw [linesOf, List.length_map, perm.length_eq, ← matched.length_eq]
    exact (by decide : 3 ≤ MAX_HEADERS)

/-- For every acceptable request the client writes a request that the server decodes and answers, and the client
decodes and takes the answer; the server derives the key from the line that the client has written. -/
theorem handshake_agrees (crates : Crates) (documented : crates.Documented) {request : Request}
    (acceptable : Acceptable request) :
    ∃ data sent received response returned,
      Client.openHandshake crates request = .ok (data, sent) ∧
      Client.generateRequest crates request = .ok sent ∧
      Server.decodeRequest crates sent = .ok (.Some (sent.length, received)) ∧
      Server.createResponse crates received = .ok response ∧
      Server.serverHandshake crates Server.NoCallback sent = (Server.generateResponse crates response, .ok ()) ∧
      Client.decodeResponse crates (Server.generateResponse crates response) =
        .ok (.Some ((Server.generateResponse crates response).length, returned)) ∧
      data.verifyResponse returned = .ok returned ∧
      (received.headers.get (ascii "Sec-WebSocket-Key")).map (fun key => deriveAcceptKey crates key.bytes) =
        some data.acceptKey := by
  obtain ⟨present, host, connection, upgrade, key, keyed, connects, upgrades, keyPrintable, hasToken, websocket,
    first⟩ := acceptable.firstValues
  obtain ⟨path, target, absolute⟩ := acceptable.target
  -- the client writes the request
  obtain ⟨writable, length, _⟩ := Client.requestFields_ok documented.iter present acceptable.printable
  have few : (Client.requestFields crates request.headers).length ≤ MAX_HEADERS := Nat.le_trans length acceptable.few
  have generated := Client.generateRequest_ok documented.iter target present acceptable.printable
  rw [acceptable.version] at generated
  have opened := acceptable.openHandshake keyed keyPrintable generated
  -- the server decodes it, and finds the lines that were written
  obtain ⟨received, decoded, method, version, _, lookup⟩ := Server.decodeRequest_ok documented.toRequestsDocumented absolute writable few
  have named : ∀ {name value}, fieldNamed (Client.firstValues Client.WEBSOCKET_HEADERS request.headers) name =
      some value → (received.headers.get name).map HeaderValue.bytes = some value := by
    intro name value found
    rw [lookup, Client.requestFields]
    exact fieldNamed_append found
  rw [first] at named
  have keyLine : (received.headers.get (ascii "Sec-WebSocket-Key")).map HeaderValue.bytes = some key.bytes :=
    named (by rfl)
  obtain ⟨response, created, status, responseVersion, matched⟩ := Server.createResponse_ok documented.base64 method version
    (toStr_of_bytes (named (by rfl)) connects) hasToken (toStr_of_bytes (named (by rfl)) upgrades) websocket
    (named (by rfl)) keyLine
  have answered : Server.serverHandshake crates Server.NoCallback
      (Lib.Head.write (requestLine path .HTTP_11) (Client.requestFields crates request.headers)) =
        (Server.generateResponse crates response, .ok ()) := by
    rw [Server.serverHandshake, decoded]
    simp only [Server.answerRequest, created, Server.NoCallback]
    simp
  -- the client decodes the answer, and finds the lines of the response, in whatever order they were written
  obtain ⟨lines, short⟩ := responseLines_ok documented matched
  obtain ⟨returned, returns, returnedStatus, answerLookup⟩ := Client.decodeResponse_ok documented response.status
    (Server.reasonOf_printable documented response.status) lines short
  have line : ∀ {name value}, fieldNamed (Server.responseFields crates key.bytes) name = value →
      (returned.headers.get name).map HeaderValue.bytes = value := by
    intro name value found
    rw [answerLookup, documented.iter.fieldNamed, ← found]
    exact matched.get name
  have written := Server.generateResponse_eq crates response
  rw [responseVersion] at written
  have verified := @Client.verifyResponse_ok ⟨deriveAcceptKey crates key.bytes, none⟩ returned
    (returnedStatus.trans status) (line rfl) (line rfl) (line rfl) (line rfl) rfl
  refine ⟨_, _, received, response, returned, opened, generated, decoded, created, answered, ?_, verified, ?_⟩
  · rw [written]
    exact returns
  · obtain ⟨value, found, same⟩ := Option.map_eq_some_iff.mp keyLine
    rw [found, Option.map_some, same]

/-- The hash of the key `dGhlIHNhbXBsZSBub25jZQ==` and the GUID. -/
def sampleHash : List UInt8 :=
  [0xb3, 0x7a, 0x4f, 0x2c, 0xc0, 0x62, 0x4f, 0x16, 0x90, 0xf6, 0x46, 0x06, 0xcf, 0x38, 0x59, 0x45, 0xb2, 0xbe, 0xc4, 0xea]

/-- The map of these lines. -/
def headerMapOf (lines : List (String × String)) : HeaderMap :=
  match HeaderMap.fromHttparse (lines.map fun (name, value) => (ascii name, ascii value)) with
  | .ok headers => headers
  | .error _ => .new

/-- A request with an origin, an upgrade in unusual case and two keys. -/
def sampleRequest : Request where
  method := ascii "GET"
  uri := ⟨some (ascii "wss"), some (ascii "localhost:9001"), some ⟨ascii "/chat", by decide, by decide⟩⟩
  version := .HTTP_11
  headers := headerMapOf
    [("Origin", "https://localhost"), ("Sec-WebSocket-Key", "dGhlIHNhbXBsZSBub25jZQ=="), ("Host", "localhost:9001"),
      ("connection", "keep-alive, upgrade"), ("Upgrade", "WebSocket"), ("Sec-WebSocket-Version", "13"),
      ("sec-websocket-key", "AAAAAAAAAAAAAAAAAAAAAA==")]

/-- The path `/chat`. -/
def chatPath : PathAndQuery := ⟨ascii "/chat", by decide, by decide⟩

theorem sampleRequest_acceptable : Acceptable sampleRequest where
  method := rfl
  version := rfl
  scheme := .inr rfl
  target := ⟨_, rfl, rfl⟩
  host := by decide
  connection := ⟨_, rfl, ascii "keep-alive, ", ascii "upgrade", [], by decide, by decide,
    .inr ⟨ascii "keep-alive,", 32, by decide, rfl⟩, .inl rfl⟩
  upgrade := ⟨_, rfl, by decide⟩
  wsVersion := ⟨_, rfl, by decide⟩
  key := by decide
  noProtocol := by decide
  printable := by decide
  few := by decide

theorem handshake_agrees_sample :
    ∃ data sent received response returned,
      Client.openHandshake (referenceCrates fun _ => sampleHash) sampleRequest = .ok (data, sent) ∧
      Client.generateRequest (referenceCrates fun _ => sampleHash) sampleRequest = .ok sent ∧
      Server.decodeRequest (referenceCrates fun _ => sampleHash) sent = .ok (.Some (sent.length, received)) ∧
      Server.createResponse (referenceCrates fun _ => sampleHash) received = .ok response ∧
      Server.serverHandshake (referenceCrates fun _ => sampleHash) Server.NoCallback sent =
        (Server.generateResponse (referenceCrates fun _ => sampleHash) response, .ok ()) ∧
      Client.decodeResponse (referenceCrates fun _ => sampleHash)
          (Server.generateResponse (referenceCrates fun _ => sampleHash) response) =
        .ok (.Some ((Server.generateResponse (referenceCrates fun _ => sampleHash) response).length, returned)) ∧
      data.verifyResponse returned = .ok returned ∧
      (received.headers.get (ascii "Sec-WebSocket-Key")).map
          (fun key => deriveAcceptKey (referenceCrates fun _ => sampleHash) key.bytes) = some data.acceptKey :=
  handshake_agrees (referenceCrates fun _ => sampleHash) (referenceCrates_documented _) sampleRequest_acceptable

/-- The key that the server sends back. -/
example : deriveAcceptKey (referenceCrates fun _ => sampleHash) (ascii "dGhlIHNhbXBsZSBub25jZQ==") =
    ascii "s3pPLMBiTxaQ9kYGzzhZRbK+xOo=" := by
  decide

end MonoioTungstenite
