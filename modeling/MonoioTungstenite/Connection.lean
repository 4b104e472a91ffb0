import MonoioTungstenite.Agreement
import MonoioTungstenite.Lib.Elements

/-! # The `Connection` header

The server looks for the word `upgrade` on the first `Connection` line, and the client takes the first line for that
word as a whole.  Both should look for it among all elements of all lines, which they do exactly if `upgrade` stands
alone on the first line, where it stands anywhere (`connection_agrees_iff`). -/

namespace MonoioTungstenite

open Lib (ascii lower eqIgnoreCase)
open Lib.Head (Trimmed Solid elements)

/-! ## Lists of tokens -/

/-- A list of tokens: commas between them, and spaces or tabs around the commas. -/
structure TokenList (value : List UInt8) : Prop where
  trimmed : Trimmed value
  tokens : ∀ element ∈ elements value, IsToken element

theorem solid_of_isToken {text : List UInt8} (token : IsToken text) : Solid text := by
  refine ⟨token.1, fun byte found => ?_⟩
  cases blank : Lib.Head.isBlank byte with
  | false => rfl
  | true =>
    have inside := List.all_eq_true.mp token.2 byte found
    simp only [Lib.Head.isBlank, Bool.or_eq_true, decide_eq_true_eq] at blank
    rcases blank with rfl | rfl
    · exact absurd inside (by decide)
    · exact absurd inside (by decide)

theorem TokenList.legible {value : HeaderValue} (list : TokenList value.bytes) : value.Legible := by
  have visible : ∀ byte, isTokenByte byte = true → isVisible byte = true := by
    apply @Lib.forall_byte fun byte => isTokenByte byte = true → isVisible byte = true
    decide +kernel
  have blank : ∀ byte, Lib.Head.isBlank byte = true → isVisible byte = true := by
    apply @Lib.forall_byte fun byte => Lib.Head.isBlank byte = true → isVisible byte = true
    decide +kernel
  apply List.all_eq_true.mpr
  apply Lib.Head.forall_mem_of_elements (by decide) blank
  exact fun element listed byte inside =>
    visible byte (List.all_eq_true.mp (list.tokens element listed).2 byte inside)

/-- The values of the `Connection` lines. -/
def connectionLines (headers : HeaderMap) : List (List UInt8) :=
  (headers.named (ascii "Connection")).map fun line => line.2.bytes

/-- Some token of some line is `upgrade`. -/
def NamesUpgrade (lines : List (List UInt8)) : Prop :=
  ∃ value ∈ lines, ∃ token ∈ elements value, lower token = ascii "upgrade"

/-- The first line is nothing but `upgrade`. -/
def UpgradeAlone (lines : List (List UInt8)) : Prop := ∃ first ∈ lines.head?, lower first = ascii "upgrade"

/-- The same tokens on more lines. -/
def SplitOver (lines more : List (List UInt8)) : Prop :=
  ∃ groups, List.Forall₂ (fun value group => group.flatMap elements = elements value) lines groups ∧
    more = groups.flatten

/-! ## What each side makes of the lines -/

/-- The header that the sides look at, for lines with lists. -/
theorem toStr_connection {headers : HeaderMap} (lists : ∀ value ∈ connectionLines headers, TokenList value) :
    (headers.get (ascii "Connection")).bind HeaderValue.toStr = (connectionLines headers).head? := by
  unfold connectionLines at lists ⊢
  rw [HeaderMap.get]
  cases named : headers.named (ascii "Connection") with
  | nil => rfl
  | cons line others =>
    rw [named, List.map_cons, List.forall_mem_cons] at lists
    exact HeaderValue.toStr_of_legible lists.1.legible

namespace Server

/-- The conditions of `create_parts` on the rest of the request. -/
structure OtherwiseMet (request : Request) : Prop where
  method : request.method = ascii "GET"
  version : ¬ request.version.rank < Version.HTTP_11.rank
  upgrade : ((request.headers.get (ascii "Upgrade")).bind HeaderValue.toStr).any
    (eqIgnoreCase · (ascii "websocket")) = true
  wsVersion : (request.headers.get (ascii "Sec-WebSocket-Version")).any (fun value => value.bytes = ascii "13") = true
  key : (request.headers.get (ascii "Sec-WebSocket-Key")).isSome = true

theorem createParts_isOk {crates : Crates} {request : Request} (met : OtherwiseMet request) :
    (createParts crates request).isOk =
      ((request.headers.get (ascii "Connection")).bind HeaderValue.toStr).any (hasWord · (ascii "Upgrade")) := by
  obtain ⟨key, keyed⟩ := Option.isSome_iff_exists.mp met.key
  rw [createParts]
  simp only [met.method, met.version, met.upgrade, met.wsVersion, keyed]
  cases ((request.headers.get (ascii "Connection")).bind HeaderValue.toStr).any (hasWord · (ascii "Upgrade")) with
  | false => rfl
  | true => rfl

end Server

namespace Client

/-- The conditions of `verify_response` on the rest of the response. -/
structure OtherwiseMet (data : VerifyData) (resp : Response) : Prop where
  status : resp.status = .SWITCHING_PROTOCOLS
  upgrade : headerIs resp.headers (ascii "Upgrade") (ascii "websocket") = true
  accept : (resp.headers.get (ascii "Sec-WebSocket-Accept")).any (fun value => value.bytes = data.acceptKey) = true
  subprotocol : data.verifySubprotocol resp.headers = .ok ()

theorem verifyResponse_isOk {data : VerifyData} {resp : Response} (met : OtherwiseMet data resp) :
    (data.verifyResponse resp).isOk = headerIs resp.headers (ascii "Connection") (ascii "Upgrade") := by
  rw [VerifyData.verifyResponse]
  simp only [met.status, met.upgrade, met.accept, met.subprotocol]
  cases headerIs resp.headers (ascii "Connection") (ascii "Upgrade") with
  | false => rfl
  | true => rfl

end Client

theorem server_takes {crates : Crates} {request : Request} (met : Server.OtherwiseMet request)
    (lists : ∀ value ∈ connectionLines request.headers, TokenList value) :
    (Server.createParts crates request).isOk = true ↔
      ∃ first ∈ (connectionLines request.headers).head?, Server.hasWord first (ascii "Upgrade") = true := by
  rw [Server.createParts_isOk met, toStr_connection lists, Option.any_eq_true]
  rfl

theorem client_takes {data : Client.VerifyData} {resp : Client.Response} (met : Client.OtherwiseMet data resp)
    (lists : ∀ value ∈ connectionLines resp.headers, TokenList value) :
    (data.verifyResponse resp).isOk = true ↔ UpgradeAlone (connectionLines resp.headers) := by
  rw [Client.verifyResponse_isOk met, Client.headerIs, toStr_connection lists, Option.any_eq_true]
  simp [UpgradeAlone, eqIgnoreCase, show lower (ascii "Upgrade") = ascii "upgrade" by decide]

theorem isToken_of_upgrade {word : List UInt8} (upgrade : lower word = ascii "upgrade") : IsToken word :=
  isToken_lower.mp (by rw [upgrade]; decide)

theorem elements_of_upgrade {value : List UInt8} (trimmed : Trimmed value) (upgrade : lower value = ascii "upgrade") :
    elements value = [value] := by
  refine Lib.Head.elements_of_whole (fun comma => ?_) trimmed
  exact absurd (List.all_eq_true.mp (isToken_of_upgrade upgrade).2 44 comma) (by decide)

/-- What the client takes names `upgrade`. -/
theorem UpgradeAlone.namesUpgrade {lines : List (List UInt8)} (lists : ∀ value ∈ lines, TokenList value)
    (alone : UpgradeAlone lines) : NamesUpgrade lines := by
  obtain ⟨first, found, upgrade⟩ := alone
  have listed := List.mem_of_mem_head? found
  refine ⟨first, listed, first, ?_, upgrade⟩
  rw [elements_of_upgrade (lists first listed).trimmed upgrade]
  exact List.mem_singleton_self first

/-- What the client takes, the server takes. -/
theorem UpgradeAlone.hasWord {lines : List (List UInt8)} (alone : UpgradeAlone lines) :
    ∃ first ∈ lines.head?, Server.hasWord first (ascii "Upgrade") = true := by
  obtain ⟨first, found, upgrade⟩ := alone
  refine ⟨first, found, Server.hasWord_of_hasToken (by decide) ⟨[], first, [], ?_, upgrade, .inl rfl, .inl rfl⟩⟩
  rw [List.nil_append, List.append_nil]

/-- What the server takes names `upgrade`. -/
theorem namesUpgrade_of_hasWord {lines : List (List UInt8)} (lists : ∀ value ∈ lines, TokenList value)
    (taken : ∃ first ∈ lines.head?, Server.hasWord first (ascii "Upgrade") = true) : NamesUpgrade lines := by
  obtain ⟨first, found, some⟩ := taken
  have listed := List.mem_of_mem_head? found
  -- what is between spaces and commas is between commas when the blanks are taken off
  obtain ⟨word, cut, same⟩ := List.any_eq_true.mp some
  have upgrade : lower word = ascii "upgrade" := of_decide_eq_true same
  have solid := solid_of_isToken (isToken_of_upgrade upgrade)
  have list : ∀ element ∈ elements first, Solid element :=
    fun element inside => solid_of_isToken ((lists first listed).tokens element inside)
  exact ⟨first, listed, word, Lib.Head.mem_elements_of_word list solid cut, upgrade⟩

/-! ## Lists that are split -/

theorem SplitOver.elements {lines more : List (List UInt8)} (split : SplitOver lines more) :
    more.flatMap elements = lines.flatMap elements := by
  obtain ⟨groups, same, rfl⟩ := split
  induction same with
  | nil => rfl
  | cons first others ih => rw [List.flatten_cons, List.flatMap_append, first, ih, List.flatMap_cons]

theorem SplitOver.namesUpgrade_iff {lines more : List (List UInt8)} (split : SplitOver lines more) :
    NamesUpgrade more ↔ NamesUpgrade lines := by
  have tokens : ∀ lines, NamesUpgrade lines ↔ ∃ token ∈ lines.flatMap Lib.Head.elements, lower token = ascii "upgrade" := by
    intro lines
    simp only [NamesUpgrade, List.mem_flatMap]
    constructor
    · exact fun ⟨value, listed, token, inside, upgrade⟩ => ⟨token, ⟨value, listed, inside⟩, upgrade⟩
    · exact fun ⟨token, ⟨value, listed, inside⟩, upgrade⟩ => ⟨value, listed, token, inside, upgrade⟩
  rw [tokens, tokens, split.elements]

theorem SplitOver.refl (lines : List (List UInt8)) : SplitOver lines lines := by
  refine ⟨lines.map fun value => [value], ?_, (List.flatMap_singleton' lines).symm⟩
  rw [List.forall₂_map_right_iff, List.forall₂_same]
  simp

/-- A line with nothing but `upgrade` stays as it is. -/
theorem SplitOver.upgradeAlone {lines more : List (List UInt8)} (split : SplitOver lines more)
    (lists : ∀ value ∈ lines, TokenList value) (parts : ∀ value ∈ more, TokenList value)
    (alone : UpgradeAlone lines) : UpgradeAlone more := by
  obtain ⟨first, found, upgrade⟩ := alone
  have single := elements_of_upgrade (lists first (List.mem_of_mem_head? found)).trimmed upgrade
  obtain ⟨groups, same, rfl⟩ := split
  cases same with
  | nil => cases found
  | @cons _ group others groups tokens =>
    cases found
    rw [single] at tokens
    cases group with
    | nil => cases tokens
    | cons part group =>
      rw [List.flatMap_cons] at tokens
      have only : Lib.Head.elements part = [first] := by
        cases List.append_eq_singleton_iff.mp tokens with
        | inl none => exact absurd none.1 (Lib.Head.elements_ne_nil part)
        | inr one => exact one.1
      have listed : part ∈ ((part :: group) :: groups).flatten := List.mem_append_left _ List.mem_cons_self
      -- one token without blanks around it is the whole line
      have trimmed := (parts part listed).trimmed
      exact ⟨part, rfl, by rw [Lib.Head.eq_of_elements_eq_singleton trimmed only]; exact upgrade⟩

/-! ## Both sides -/

/-- Both sides take the header exactly if it names `upgrade`, and keep to that when its lists are split over more
lines. -/
structure ReadAlike (crates : Crates) (request : Request) (data : Client.VerifyData) (resp : Client.Response) :
    Prop where
  server : (Server.createParts crates request).isOk = true ↔ NamesUpgrade (connectionLines request.headers)
  client : (data.verifyResponse resp).isOk = true ↔ NamesUpgrade (connectionLines resp.headers)
  serverSplit : ∀ other, Server.OtherwiseMet other → (∀ value ∈ connectionLines other.headers, TokenList value) →
    SplitOver (connectionLines request.headers) (connectionLines other.headers) →
    ((Server.createParts crates other).isOk = true ↔ (Server.createParts crates request).isOk = true)
  clientSplit : ∀ other, Client.OtherwiseMet data other → (∀ value ∈ connectionLines other.headers, TokenList value) →
    SplitOver (connectionLines resp.headers) (connectionLines other.headers) →
    ((data.verifyResponse other).isOk = true ↔ (data.verifyResponse resp).isOk = true)

/-- For a request and a response with the same `Connection` lines, lists of tokens, both sides read these alike and
as the list that they are, exactly if `upgrade` stands alone on the first line, where it stands anywhere. -/
theorem connection_agrees_iff {crates : Crates} {request : Request} {data : Client.VerifyData}
    {resp : Client.Response} (asked : Server.OtherwiseMet request) (answered : Client.OtherwiseMet data resp)
    (same : connectionLines request.headers = connectionLines resp.headers)
    (lists : ∀ value ∈ connectionLines resp.headers, TokenList value) :
    ReadAlike crates request data resp ↔
      (NamesUpgrade (connectionLines resp.headers) → UpgradeAlone (connectionLines resp.headers)) := by
  constructor
  · intro alike named
    exact (client_takes answered lists).mp (alike.client.mpr named)
  · intro alone
    -- the three ways to decide come to one, here and for all lines that these are split over
    have server : ∀ other, Server.OtherwiseMet other → (∀ value ∈ connectionLines other.headers, TokenList value) →
        SplitOver (connectionLines resp.headers) (connectionLines other.headers) →
        ((Server.createParts crates other).isOk = true ↔ NamesUpgrade (connectionLines resp.headers)) := by
      intro other met parts split
      rw [server_takes met parts, ← split.namesUpgrade_iff]
      refine ⟨namesUpgrade_of_hasWord parts, fun named => ?_⟩
      exact (split.upgradeAlone lists parts (alone (split.namesUpgrade_iff.mp named))).hasWord
    have client : ∀ other, Client.OtherwiseMet data other → (∀ value ∈ connectionLines other.headers, TokenList value) →
        SplitOver (connectionLines resp.headers) (connectionLines other.headers) →
        ((data.verifyResponse other).isOk = true ↔ NamesUpgrade (connectionLines resp.headers)) := by
      intro other met parts split
      rw [client_takes met parts, ← split.namesUpgrade_iff]
      refine ⟨UpgradeAlone.namesUpgrade parts, fun named => ?_⟩
      exact split.upgradeAlone lists parts (alone (split.namesUpgrade_iff.mp named))
    have unsplit := SplitOver.refl (connectionLines resp.headers)
    have asks := server request asked (same ▸ lists) (same ▸ unsplit)
    have answers := client resp answered lists unsplit
    refine ⟨same ▸ asks, answers, ?_, ?_⟩
    · exact fun other met parts split => (server other met parts (same ▸ split)).trans asks.symm
    · exact fun other met parts split => (client other met parts split).trans answers.symm

/-- A request as a proxy may pass it on. -/
def proxiedRequest : Request where
  method := ascii "GET"
  uri := ⟨none, none, some chatPath⟩
  version := .HTTP_11
  headers := headerMapOf
    [("Host", "localhost"), ("Connection", "keep-alive, Upgrade"), ("Upgrade", "websocket"),
      ("Sec-WebSocket-Version", "13"), ("Sec-WebSocket-Key", "dGhlIHNhbXBsZSBub25jZQ==")]

/-- A response as a proxy may pass it on. -/
def proxiedResponse : Client.Response where
  status := .SWITCHING_PROTOCOLS
  version := .HTTP_11
  headers := headerMapOf
    [("Connection", "keep-alive, Upgrade"), ("Upgrade", "websocket"),
      ("Sec-WebSocket-Accept", "s3pPLMBiTxaQ9kYGzzhZRbK+xOo=")]
  body := none

theorem proxiedRequest_met : Server.OtherwiseMet proxiedRequest where
  method := rfl
  version := by decide
  upgrade := by decide +kernel
  wsVersion := by decide +kernel
  key := by decide +kernel

theorem proxiedResponse_met : Client.OtherwiseMet ⟨ascii "s3pPLMBiTxaQ9kYGzzhZRbK+xOo=", none⟩ proxiedResponse where
  status := rfl
  upgrade := by decide +kernel
  accept := by decide +kernel
  subprotocol := by decide +kernel

theorem proxied_lists : ∀ value ∈ connectionLines proxiedResponse.headers, TokenList value := by
  rw [show connectionLines proxiedResponse.headers = [ascii "keep-alive, Upgrade"] by decide +kernel,
    List.forall_mem_singleton]
  exact ⟨⟨by decide +kernel, by decide +kernel⟩, by decide +kernel⟩

theorem connection_agrees_iff_proxied :
    ReadAlike (referenceCrates fun _ => sampleHash) proxiedRequest ⟨ascii "s3pPLMBiTxaQ9kYGzzhZRbK+xOo=", none⟩
        proxiedResponse ↔
      (NamesUpgrade (connectionLines proxiedResponse.headers) →
        UpgradeAlone (connectionLines proxiedResponse.headers)) :=
  connection_agrees_iff proxiedRequest_met proxiedResponse_met (by decide +kernel) proxied_lists

/-- The server takes the list that was passed on, and the client refuses it. -/
theorem not_readAlike_proxied :
    connectionLines proxiedRequest.headers = [ascii "keep-alive, Upgrade"] ∧
      connectionLines proxiedResponse.headers = [ascii "keep-alive, Upgrade"] ∧
      Server.OtherwiseMet proxiedRequest ∧
      Client.OtherwiseMet ⟨ascii "s3pPLMBiTxaQ9kYGzzhZRbK+xOo=", none⟩ proxiedResponse ∧
      ¬ ReadAlike (referenceCrates fun _ => sampleHash) proxiedRequest ⟨ascii "s3pPLMBiTxaQ9kYGzzhZRbK+xOo=", none⟩
        proxiedResponse := by
  refine ⟨by decide +kernel, by decide +kernel, proxiedRequest_met, proxiedResponse_met, fun alike => ?_⟩
  have named : NamesUpgrade (connectionLines proxiedResponse.headers) :=
    ⟨ascii "keep-alive, Upgrade", by decide +kernel, ascii "Upgrade", by decide +kernel, by decide⟩
  exact absurd (alike.client.mpr named) (by decide +kernel)

end MonoioTungstenite
