import MonoioTungstenite.Requests

/-! # Callbacks and subprotocols

The handshake with a callback that adds to the response, for a client that may ask for subprotocols.  The callback is
shown the first line of subprotocols as the client wrote it, and the client takes the response exactly if what the
callback has chosen is on this line (`negotiation_agrees`). -/

namespace MonoioTungstenite

open Lib (ascii lower)
open Lib.Head (Field elements)
open Client (PROTOCOL_HEADERNAME WEBSOCKET_HEADERS)

/-- A request for a handshake that may ask for subprotocols: without the lines for these it is acceptable. -/
structure Negotiable (request : Request) : Prop where
  plain : Acceptable { request with headers := (request.headers.remove PROTOCOL_HEADERNAME).2 }
  printable : ∀ line ∈ request.headers.entries, Printable line.2.bytes
  few : request.headers.entries.length ≤ MAX_HEADERS

/-- What a callback may make of the response: it keeps the status, the version and the first values of the headers of
the handshake, and all of its lines can be written. -/
structure Server.Extends (created resp : Server.Response) : Prop where
  status : resp.status = created.status
  version : resp.version = created.version
  kept : ∀ name ∈ [ascii "Connection", ascii "Upgrade", ascii "Sec-WebSocket-Accept"],
    resp.headers.get name = created.headers.get name
  printable : ∀ line ∈ resp.headers.entries, Printable line.2.bytes
  few : resp.headers.entries.length ≤ MAX_HEADERS

/-- The response names a subprotocol that is on the first line of those asked for, or there is none on both sides. -/
def Chosen (request : Request) (resp : Server.Response) : Prop :=
  match request.headers.get PROTOCOL_HEADERNAME, resp.headers.get PROTOCOL_HEADERNAME with
  | none, none => True
  | some offered, some chosen => chosen.bytes ∈ elements offered.bytes
  | _, _ => False

section Negotiable

variable {crates : Crates} {request : Request}

/-- The lines for subprotocols do not stand in the way of the others. -/
theorem Negotiable.get_plain (request : Request) {name : List UInt8} (other : lower name ≠ lower PROTOCOL_HEADERNAME) :
    ((request.headers.remove PROTOCOL_HEADERNAME).2).get name = request.headers.get name :=
  HeaderMap.get_congr (HeaderMap.named_remove other)

theorem necessary_ne_protocol : ∀ name ∈ WEBSOCKET_HEADERS, lower name ≠ lower PROTOCOL_HEADERNAME := by decide

theorem Negotiable.firstValues (negotiable : Negotiable request) :
    (∀ name ∈ WEBSOCKET_HEADERS, Client.Present request.headers name) ∧
    ∃ host connection upgrade key : HeaderValue, request.headers.get (ascii "Sec-WebSocket-Key") = some key ∧
      Printable connection.bytes ∧ Printable upgrade.bytes ∧ Printable key.bytes ∧
      Server.HasToken connection.bytes (ascii "Upgrade") ∧ lower upgrade.bytes = ascii "websocket" ∧
      Client.firstValues WEBSOCKET_HEADERS request.headers =
        [(ascii "Host", host.bytes), (ascii "Connection", connection.bytes), (ascii "Upgrade", upgrade.bytes),
          (ascii "Sec-WebSocket-Version", ascii "13"), (ascii "Sec-WebSocket-Key", key.bytes)] := by
  obtain ⟨present, host, connection, upgrade, key, keyed, rest⟩ := negotiable.plain.firstValues
  have same : ∀ name ∈ WEBSOCKET_HEADERS,
      ((request.headers.remove PROTOCOL_HEADERNAME).2).get name = request.headers.get name :=
    fun name listed => Negotiable.get_plain request (necessary_ne_protocol name listed)
  rw [Client.firstValues_congr same] at rest
  refine ⟨?_, host, connection, upgrade, key, ?_, rest⟩
  · intro name listed
    obtain ⟨value, found, printable⟩ := present name listed
    exact ⟨value, (same name listed).symm.trans found, printable⟩
  · exact (same _ (by decide)).symm.trans keyed

theorem get_of_lower (headers : HeaderMap) {first name : List UInt8} (same : lower first = lower name) :
    headers.get first = headers.get name := by
  rw [HeaderMap.get, HeaderMap.get, HeaderMap.named, HeaderMap.named, same]

theorem fieldNamed_firstValues (names : List (List UInt8)) (headers : HeaderMap) (name : List UInt8) :
    fieldNamed (Client.firstValues names headers) name =
      if lower name ∈ names.map lower then (headers.get name).map HeaderValue.bytes else none := by
  induction names with
  | nil => rfl
  | cons first names inductionHypothesis =>
    rw [Client.firstValues, List.filterMap_cons, ← Client.firstValues, List.map_cons]
    by_cases same : lower first = lower name
    · rw [if_pos (by rw [same]; exact List.mem_cons_self)]
      have found := get_of_lower headers same
      cases value : headers.get name with
      | none =>
        rw [value] at found inductionHypothesis
        rw [found]
        simpa using inductionHypothesis
      | some value' =>
        rw [found, value]
        simp [fieldNamed, same]
    · have further : (lower name ∈ lower first :: names.map lower) ↔ lower name ∈ names.map lower := by
        simp [Ne.symm same]
      rw [if_congr further rfl rfl, ← inductionHypothesis]
      cases headers.get first with
      | none => rfl
      | some value => simp [fieldNamed, same]

/-- A name that is not necessary is written with the lines it has in the map. -/
theorem fieldNamed_restFields (documented : crates.Documented) (headers : HeaderMap) {name : List UInt8}
    (other : lower name ∉ WEBSOCKET_HEADERS.map lower) :
    fieldNamed (Client.requestFields crates headers) name = (headers.get name).map HeaderValue.bytes := by
  have required : (Client.firstValues WEBSOCKET_HEADERS headers).find? (fun field => lower field.1 = lower name) =
      none := by
    apply List.find?_eq_none.mpr
    intro field first same
    have listed := (Client.firstValues_names WEBSOCKET_HEADERS headers).subset (List.mem_map_of_mem first)
    rw [of_decide_eq_true same] at listed
    exact other listed
  have rest : fieldNamed (Client.restFields (crates.iter (Client.without WEBSOCKET_HEADERS headers))) name =
      fieldNamed (linesOf (crates.iter (Client.without WEBSOCKET_HEADERS headers))) name := by
    simp only [fieldNamed, Client.restFields, linesOf, List.find?_map, Option.map_map, Function.comp_def,
      Client.lower_writtenName, HeaderName.lowerCase]
  have kept : (Client.without WEBSOCKET_HEADERS headers).named name = headers.named name := by
    unfold HeaderMap.named Client.without
    rw [List.filter_filter]
    apply List.filter_congr
    intro line _
    by_cases same : line.1.bytes = lower name
    · simpa [same] using other
    · simp [same]
  unfold Client.requestFields
  rw [fieldNamed, List.find?_append, required, Option.none_or, ← fieldNamed, rest, documented.iter.fieldNamed,
    HeaderMap.get_congr kept]

/-- The request is written with the first values of its map. -/
theorem fieldNamed_requestFields (documented : crates.Documented) {headers : HeaderMap}
    (present : ∀ name ∈ WEBSOCKET_HEADERS, Client.Present headers name) (name : List UInt8) :
    fieldNamed (Client.requestFields crates headers) name = (headers.get name).map HeaderValue.bytes := by
  by_cases listed : lower name ∈ WEBSOCKET_HEADERS.map lower
  · have first := fieldNamed_firstValues WEBSOCKET_HEADERS headers name
    obtain ⟨necessary, necessarily, same⟩ := List.mem_map.mp listed
    obtain ⟨value, found, _⟩ := present necessary necessarily
    rw [get_of_lower headers same] at found
    rw [if_pos listed, found] at first
    rw [found]
    exact fieldNamed_append first
  · exact fieldNamed_restFields documented headers listed

/-- The client opens the handshake with the request that it writes, and keeps the first line of subprotocols. -/
theorem Negotiable.openHandshake (negotiable : Negotiable request) {key : HeaderValue}
    (keyed : request.headers.get (ascii "Sec-WebSocket-Key") = some key) (printable : Printable key.bytes)
    {sent : List UInt8} (generated : Client.generateRequest crates request = .ok sent) :
    Client.openHandshake crates request =
      .ok (⟨deriveAcceptKey crates key.bytes,
        (request.headers.get PROTOCOL_HEADERNAME).map fun value => elements value.bytes⟩, sent) := by
  have method : request.method = ascii "GET" := negotiable.plain.method
  have version : request.version = .HTTP_11 := negotiable.plain.version
  have mode : ∃ mode, Client.uriMode request.uri = .ok mode := by
    have scheme : request.uri.scheme = some (ascii "ws") ∨ request.uri.scheme = some (ascii "wss") :=
      negotiable.plain.scheme
    unfold Client.uriMode
    cases scheme with
    | inl ws => exact ⟨_, if_pos ws⟩
    | inr wss => rw [wss]; exact ⟨.Tls, by decide⟩
  obtain ⟨mode, uri⟩ := mode
  have subprotocols : Client.extractSubprotocols request =
      .ok ((request.headers.get PROTOCOL_HEADERNAME).map fun value => elements value.bytes) := by
    rw [Client.extractSubprotocols, ← PROTOCOL_HEADERNAME]
    cases found : request.headers.get PROTOCOL_HEADERNAME with
    | none => rfl
    | some value =>
      obtain ⟨line, listed, _, rfl⟩ := HeaderMap.get_mem found
      simp only [HeaderValue.toStr_printable (negotiable.printable line listed)]
      rfl
  have asked : Client.getWebsocketKey request = .ok key.bytes := by
    rw [Client.getWebsocketKey, show request.headers.get Client.KEY_HEADERNAME = some key from keyed]
    simp only [key.toStr_printable printable]
  rw [Client.openHandshake, if_neg (not_not_intro method), version, if_neg (by decide)]
  simp only [bind, Except.bind, uri, subprotocols, asked, generated, pure, Except.pure]

end Negotiable

/-! ## The response -/

section Response

variable {crates : Crates}

/-- Lines that can be written can be written in whatever order the map yields them. -/
theorem linesOf_iter (documented : crates.Documented) {headers : HeaderMap}
    (printable : ∀ line ∈ headers.entries, Printable line.2.bytes) (few : headers.entries.length ≤ MAX_HEADERS) :
    (∀ field ∈ linesOf (crates.iter headers), Writable field) ∧ (linesOf (crates.iter headers)).length ≤ MAX_HEADERS := by
  have perm := documented.iter.perm headers
  constructor
  · intro field found
    obtain ⟨line, listed, rfl⟩ := List.mem_map.mp found
    exact writable_line (printable line (perm.mem_iff.mp listed))
  · rw [linesOf, List.length_map, perm.length_eq]
    exact few

/-- The client decodes the head of a response, with its status and its first values. -/
theorem Server.generateResponse_decoded {β : Type} (documented : crates.Documented) {resp : MonoioTungstenite.Response β}
    (version : resp.version = .HTTP_11) (printable : ∀ line ∈ resp.headers.entries, Printable line.2.bytes)
    (few : resp.headers.entries.length ≤ MAX_HEADERS) :
    ∃ returned, Client.decodeResponse crates (generateResponse crates resp) =
        .ok (.Some ((generateResponse crates resp).length, returned)) ∧ returned.status = resp.status ∧
      ∀ name, (returned.headers.get name).map HeaderValue.bytes = (resp.headers.get name).map HeaderValue.bytes := by
  obtain ⟨lines, length⟩ := linesOf_iter documented printable few
  obtain ⟨returned, returns, status, lookup⟩ := Client.decodeResponse_ok documented resp.status
    (reasonOf_printable documented resp.status) lines length
  have written := generateResponse_eq crates resp
  rw [version] at written
  rw [written]
  exact ⟨returned, returns, status, fun name => (lookup name).trans (documented.iter.fieldNamed _ _)⟩

/-- What the client finds in the answer that a callback has made of the response to a key. -/
theorem Server.Extends.decoded {created resp : Response} {key : List UInt8} (documented : crates.Documented)
    (adds : Extends created resp) (status : created.status = .SWITCHING_PROTOCOLS) (version : created.version = .HTTP_11)
    (matched : Matches (responseFields crates key) created.headers.entries) :
    ∃ returned, Client.decodeResponse crates (generateResponse crates resp) =
        .ok (.Some ((generateResponse crates resp).length, returned)) ∧
      (∀ subprotocols, Client.VerifyData.Passes ⟨deriveAcceptKey crates key, subprotocols⟩ returned) ∧
      (returned.headers.get PROTOCOL_HEADERNAME).map HeaderValue.bytes =
        (resp.headers.get PROTOCOL_HEADERNAME).map HeaderValue.bytes := by
  obtain ⟨returned, returns, returnedStatus, lookup⟩ :=
    generateResponse_decoded documented (adds.version.trans version) adds.printable adds.few
  have line : ∀ {name value}, name ∈ [ascii "Connection", ascii "Upgrade", ascii "Sec-WebSocket-Accept"] →
      fieldNamed (responseFields crates key) name = some value →
      (returned.headers.get name).map HeaderValue.bytes = some value := by
    intro name value listed found
    rw [lookup, adds.kept name listed, ← found]
    exact matched.get name
  refine ⟨returned, returns, fun subprotocols => ?_, lookup _⟩
  constructor
  case status => exact returnedStatus.trans (adds.status.trans status)
  case upgrade => exact Client.headerIs_of_bytes (line (by decide) (by rfl)) printable_websocket rfl
  case connection => exact Client.headerIs_of_bytes (line (by decide) (by rfl)) printable_upgrade rfl
  case accept =>
    obtain ⟨value, found, same⟩ := Option.map_eq_some_iff.mp
      (@line (ascii "Sec-WebSocket-Accept") (deriveAcceptKey crates key) (by decide) (by rfl))
    rw [found, Option.any_some, same]
    simp

end Response

/-! ## Callbacks -/

namespace Server

/-- A check that does not fail goes on to what follows it. -/
theorem ok_of_check {ε α : Type} {failed : Prop} [Decidable failed] {error : ε} {rest : Except ε α} {value : α}
    (returned : (if failed then .error error else rest) = .ok value) : rest = .ok value := by
  split at returned
  next => cases returned
  next => exact returned

theorem createParts_ok {crates : Crates} {received : Request} {builder : Builder}
    (creates : createParts crates received = .ok builder) :
    ∃ key : HeaderValue, builder = (Builder.header (ascii "Sec-WebSocket-Accept") (deriveAcceptKey crates key.bytes)
      (Builder.header (ascii "Upgrade") (ascii "websocket") (Builder.header (ascii "Connection") (ascii "Upgrade")
        (.ok (.SWITCHING_PROTOCOLS, received.version, .new))))) := by
  unfold createParts at creates
  have keyed := ok_of_check (ok_of_check (ok_of_check (ok_of_check (ok_of_check creates))))
  split at keyed
  next => cases keyed
  next key found =>
    cases keyed
    exact ⟨key, rfl⟩

/-- Whatever is asked, the response that the callback is shown has the same three lines, with the key that is asked. -/
theorem createResponse_lines {crates : Crates} (encodes : Encodes crates.base64) {received : Request}
    {created : Response} (creates : createResponse crates received = .ok created) :
    ∃ key, Matches (responseFields crates key) created.headers.entries := by
  unfold createResponse at creates
  cases parts : createParts crates received with
  | error error =>
    rw [parts] at creates
    cases creates
  | ok builder =>
    rw [parts] at creates
    obtain ⟨key, rfl⟩ := createParts_ok parts
    have writable := responseFields_writable encodes key.bytes
    simp only [responseFields, List.forall_mem_cons] at writable
    obtain ⟨firstName, firstValue, firstNamed, firstValued, first⟩ :=
      Builder.header_ok writable.1 .SWITCHING_PROTOCOLS received.version .new
    obtain ⟨secondName, secondValue, secondNamed, secondValued, second⟩ := Builder.header_ok writable.2.1
      .SWITCHING_PROTOCOLS received.version (HeaderMap.new.append firstName firstValue)
    obtain ⟨thirdName, thirdValue, thirdNamed, thirdValued, third⟩ := Builder.header_ok writable.2.2.1
      .SWITCHING_PROTOCOLS received.version
      ((HeaderMap.new.append firstName firstValue).append secondName secondValue)
    rw [first, second, third] at creates
    cases creates
    exact ⟨key.bytes, .cons ⟨firstNamed, firstValued⟩ (.cons ⟨secondNamed, secondValued⟩
      (.cons ⟨thirdNamed, thirdValued⟩ .nil))⟩

/-- A callback that names a subprotocol. -/
def selectProtocol (name : HeaderName) (protocol : HeaderValue) : Callback :=
  fun _ resp => .ok { resp with headers := resp.headers.append name protocol }

/-- A callback that agrees to every request that is answered, and adds to the response. -/
def Courteous (crates : Crates) (callback : Callback) : Prop :=
  ∀ received created, createResponse crates received = .ok created →
    ∃ resp, callback received created = .ok resp ∧ Extends created resp

/-- A line with another name goes behind the lines of the handshake. -/
theorem selectProtocol_courteous {crates : Crates} (encodes : Encodes crates.base64) {name : HeaderName}
    {protocol : HeaderValue} (printable : Printable protocol.bytes)
    (other : ∀ necessary ∈ [ascii "Connection", ascii "Upgrade", ascii "Sec-WebSocket-Accept"],
      name.bytes ≠ lower necessary) : Courteous crates (selectProtocol name protocol) := by
  intro received created creates
  obtain ⟨key, matched⟩ := createResponse_lines encodes creates
  refine ⟨_, rfl, rfl, rfl, ?_, ?_, ?_⟩
  · intro necessary listed
    apply HeaderMap.get_congr
    simp [HeaderMap.named, HeaderMap.append, other necessary listed]
  · intro line found
    cases List.mem_append.mp found with
    | inl old =>
      exact matched.printable (fun field listed => (responseFields_writable encodes key field listed).2) line old
    | inr new =>
      obtain rfl := List.mem_singleton.mp new
      exact printable
  · have length := matched.length_eq
    simp only [responseFields, List.length_cons, List.length_nil] at length
    simp only [HeaderMap.append, List.length_append, List.length_cons, List.length_nil, ← length]
    decide

end Server

/-! ## Both sides -/

/-- What becomes of a request that the client writes and of what the callback makes of the response: each side decodes
what the other has written. -/
structure Negotiated (crates : Crates) (callback : Server.Callback) (request : Request) (data : Client.VerifyData)
    (sent : List UInt8) (received : Request) (resp : Server.Response) (returned : Client.Response) : Prop where
  opened : Client.openHandshake crates request = .ok (data, sent)
  decoded : Server.decodeRequest crates sent = .ok (.Some (sent.length, received))
  shown : ∀ name, (received.headers.get name).map HeaderValue.bytes = (request.headers.get name).map HeaderValue.bytes
  agreed : ∃ created, Server.createResponse crates received = .ok created ∧ callback received created = .ok resp
  answered : Server.serverHandshake crates callback sent = (Server.generateResponse crates resp, .ok ())
  returns : Client.decodeResponse crates (Server.generateResponse crates resp) =
    .ok (.Some ((Server.generateResponse crates resp).length, returned))
  verified : (Chosen request resp ∧ data.verifyResponse returned = .ok returned) ∨
    (¬ Chosen request resp ∧
      ∃ error, data.verifyResponse returned = .error (.Protocol (.SecWebSocketSubProtocolError error)))

section Both

variable {crates : Crates} {request : Request} {callback : Server.Callback}

/-- What is chosen is decided by the first line of subprotocols on either side. -/
theorem verifyResponse_chosen {key : List UInt8} {resp : Server.Response} {returned : Client.Response}
    (passes : ∀ subprotocols, Client.VerifyData.Passes ⟨key, subprotocols⟩ returned)
    (named : (returned.headers.get PROTOCOL_HEADERNAME).map HeaderValue.bytes =
      (resp.headers.get PROTOCOL_HEADERNAME).map HeaderValue.bytes)
    (printable : ∀ line ∈ resp.headers.entries, Printable line.2.bytes) {data : Client.VerifyData}
    (verifies : data = ⟨key, (request.headers.get PROTOCOL_HEADERNAME).map fun value => elements value.bytes⟩) :
    (Chosen request resp ∧ data.verifyResponse returned = .ok returned) ∨
      (¬ Chosen request resp ∧
        ∃ error, data.verifyResponse returned = .error (.Protocol (.SecWebSocketSubProtocolError error))) := by
  subst verifies
  rw [(passes _).verifyResponse, Client.VerifyData.verifySubprotocol, ← PROTOCOL_HEADERNAME, Chosen]
  cases chosen : resp.headers.get PROTOCOL_HEADERNAME with
  | none =>
    rw [chosen, Option.map_none, Option.map_eq_none_iff] at named
    rw [named]
    cases request.headers.get PROTOCOL_HEADERNAME with
    | none => exact .inl ⟨trivial, rfl⟩
    | some offered => exact .inr ⟨not_false, .NoSubProtocol, rfl⟩
  | some value =>
    rw [chosen] at named
    obtain ⟨other, found, same⟩ := Option.map_eq_some_iff.mp named
    obtain ⟨line, listed, _, rfl⟩ := HeaderMap.get_mem chosen
    have legible : other.toStr = some line.2.bytes := by
      rw [← same]
      exact other.toStr_printable (same ▸ printable line listed)
    rw [found]
    cases request.headers.get PROTOCOL_HEADERNAME with
    | none => exact .inr ⟨not_false, .ServerSentSubProtocolNoneRequested, rfl⟩
    | some offered =>
      simp only [Option.map_some, legible, List.contains_iff_mem]
      by_cases inside : line.2.bytes ∈ elements offered.bytes
      · rw [if_pos inside]
        exact .inl ⟨inside, rfl⟩
      · rw [if_neg inside]
        exact .inr ⟨inside, .InvalidSubProtocol, rfl⟩

/-- A request that is negotiable is written, and is decoded as a request that a response is created for. -/
theorem Negotiable.created (documented : crates.Documented) (negotiable : Negotiable request) :
    ∃ key sent received created,
      Client.openHandshake crates request = .ok (⟨deriveAcceptKey crates key,
        (request.headers.get PROTOCOL_HEADERNAME).map fun value => elements value.bytes⟩, sent) ∧
      Server.decodeRequest crates sent = .ok (.Some (sent.length, received)) ∧
      (∀ name, (received.headers.get name).map HeaderValue.bytes = (request.headers.get name).map HeaderValue.bytes) ∧
      Server.createResponse crates received = .ok created ∧ created.status = .SWITCHING_PROTOCOLS ∧
      created.version = .HTTP_11 ∧ Matches (Server.responseFields crates key) created.headers.entries := by
  obtain ⟨present, host, connection, upgrade, key, keyed, connects, upgrades, keyPrintable, hasToken, websocket,
    first⟩ := negotiable.firstValues
  obtain ⟨path, target, absolute⟩ : ∃ path, request.uri.pathAndQuery = some path ∧ path.Absolute :=
    negotiable.plain.target
  have version : request.version = .HTTP_11 := negotiable.plain.version
  -- the client writes the request
  obtain ⟨writable, length, _⟩ := Client.requestFields_ok documented.iter present negotiable.printable
  have few : (Client.requestFields crates request.headers).length ≤ MAX_HEADERS := Nat.le_trans length negotiable.few
  have generated := Client.generateRequest_ok documented.iter target present negotiable.printable
  rw [version] at generated
  have opened := negotiable.openHandshake keyed keyPrintable generated
  -- the server decodes it
  obtain ⟨received, decoded, method, receivedVersion, _, lookup⟩ := Server.decodeRequest_ok documented.toRequestsDocumented absolute writable few
  have named : ∀ {name value}, fieldNamed (Client.firstValues WEBSOCKET_HEADERS request.headers) name = some value →
      (received.headers.get name).map HeaderValue.bytes = some value := by
    intro name value found
    rw [lookup, Client.requestFields]
    exact fieldNamed_append found
  rw [first] at named
  obtain ⟨created, creates, status, createdVersion, matched⟩ := Server.createResponse_ok documented.base64 method
    receivedVersion (toStr_of_bytes (named (by rfl)) connects) hasToken (toStr_of_bytes (named (by rfl)) upgrades)
    websocket (named (by rfl)) (named (by rfl) : (received.headers.get (ascii "Sec-WebSocket-Key")).map
      HeaderValue.bytes = some key.bytes)
  refine ⟨key.bytes, _, received, created, opened, decoded, fun name => ?_, creates, status, createdVersion, matched⟩
  rw [lookup, fieldNamed_requestFields documented present]

/-- A request that is negotiable comes to a response that the client decodes. -/
theorem Negotiable.negotiated (documented : crates.Documented) (negotiable : Negotiable request)
    (courteous : Server.Courteous crates callback) :
    ∃ data sent received resp returned, Negotiated crates callback request data sent received resp returned := by
  obtain ⟨key, sent, received, created, opened, decoded, shown, creates, status, version, matched⟩ :=
    negotiable.created documented
  obtain ⟨resp, agrees, adds⟩ := courteous received created creates
  obtain ⟨returned, returns, passes, chosen⟩ := adds.decoded documented status version matched
  refine ⟨_, sent, received, resp, returned, opened, decoded, shown, ⟨created, creates, agrees⟩, ?_, returns,
    verifyResponse_chosen passes chosen adds.printable rfl⟩
  rw [Server.serverHandshake, decoded]
  simp only [Server.answerRequest, creates, agrees]
  simp

/-- **A subprotocol is negotiated as the callback sees it.**  For every request that is acceptable but for its lines for
subprotocols, and every callback that adds to the response: the server answers, with a callback that is shown the
first line of subprotocols as it stands in the request, and the client takes the answer exactly if what the callback
has chosen stands on this line, or there is neither a line nor a choice; otherwise it fails for the subprotocol. -/
theorem negotiation_agrees (crates : Crates) (documented : crates.Documented) {request : Request}
    (negotiable : Negotiable request) {callback : Server.Callback} (courteous : Server.Courteous crates callback) :
    ∃ data sent received created resp, Client.openHandshake crates request = .ok (data, sent) ∧
      callback received created = .ok resp ∧
      (received.headers.get PROTOCOL_HEADERNAME).map HeaderValue.bytes =
        (request.headers.get PROTOCOL_HEADERNAME).map HeaderValue.bytes ∧
      Server.serverHandshake crates callback sent = (Server.generateResponse crates resp, .ok ()) ∧
      ((Chosen request resp ∧
          ∃ returned, Client.finishHandshake crates data (Server.generateResponse crates resp) = .ok returned) ∨
        (¬ Chosen request resp ∧ ∃ error, Client.finishHandshake crates data (Server.generateResponse crates resp) =
          .error (.Protocol (.SecWebSocketSubProtocolError error)))) := by
  obtain ⟨data, sent, received, resp, returned, opened, _, shown, ⟨created, _, agreed⟩, answered, returns, verified⟩ :=
    negotiable.negotiated documented courteous
  refine ⟨data, sent, received, created, resp, opened, agreed, shown _, answered, ?_⟩
  rw [Client.finishHandshake, returns]
  simp only [bind, Except.bind]
  rcases verified with ⟨chosen, taken⟩ | ⟨notChosen, error, refused⟩
  · rw [taken]
    exact .inl ⟨chosen, returned, rfl⟩
  · rw [refused]
    exact .inr ⟨notChosen, error, rfl⟩

end Both

theorem twoProtocolLines_negotiable : Negotiable Client.twoProtocolLines where
  plain := by
    constructor
    case method => rfl
    case version => rfl
    case scheme => exact .inl rfl
    case target => exact ⟨_, rfl, rfl⟩
    case host => decide +kernel
    case connection => exact ⟨⟨ascii "Upgrade", by decide⟩, by decide +kernel, [], ascii "Upgrade", [], rfl, rfl, .inl rfl, .inl rfl⟩
    case upgrade => exact ⟨⟨ascii "websocket", by decide⟩, by decide +kernel, by decide⟩
    case wsVersion => exact ⟨⟨ascii "13", by decide⟩, by decide +kernel, rfl⟩
    case key => decide +kernel
    case noProtocol => decide +kernel
    case printable => decide +kernel
    case few => decide +kernel
  printable := by decide +kernel
  few := by decide

theorem negotiation_agrees_chat :
    ∃ data sent received created resp,
      Client.openHandshake (referenceCrates fun _ => sampleHash) Client.twoProtocolLines = .ok (data, sent) ∧
      Server.selectProtocol ⟨ascii "sec-websocket-protocol", by decide, by decide⟩ ⟨ascii "chat", by decide⟩ received
        created = .ok resp ∧
      Server.serverHandshake (referenceCrates fun _ => sampleHash)
        (Server.selectProtocol ⟨ascii "sec-websocket-protocol", by decide, by decide⟩ ⟨ascii "chat", by decide⟩) sent =
          (Server.generateResponse (referenceCrates fun _ => sampleHash) resp, .ok ()) := by
  have courteous : Server.Courteous (referenceCrates fun _ => sampleHash)
      (Server.selectProtocol ⟨ascii "sec-websocket-protocol", by decide, by decide⟩ ⟨ascii "chat", by decide⟩) :=
    Server.selectProtocol_courteous (referenceCrates_requestsDocumented _).base64 (by decide) (by decide)
  obtain ⟨data, sent, received, created, resp, opened, agreed, _, answered, _⟩ :=
    negotiation_agrees (referenceCrates fun _ => sampleHash) (referenceCrates_documented _) twoProtocolLines_negotiable
      courteous
  exact ⟨data, sent, received, created, resp, opened, agreed, answered⟩

end MonoioTungstenite
