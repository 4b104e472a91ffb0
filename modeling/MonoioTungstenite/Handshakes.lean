import MonoioTungstenite.Negotiation
import MonoioTungstenite.ServerHandshake

/-! # Both handshakes on their streams

`client_handshake`, on a stream that fails or stalls wherever it likes (`clientHandshake_conducted`), and next to
`server_handshake`, each on what the other one has written.  However the streams behave and wherever they stop, the two
ends never disagree on what the callback has decided (`handshakes_concur`). -/

namespace MonoioTungstenite

open Lib (ascii)
open Client (Connecting ResponseRead VerifyData)
open Server (RequestRead)

/-! ## The client -/

namespace Client

/-- What the handshake of the client comes to when these bytes arrive.  Nothing has been written for a request that cannot
be made, all of the request where an answer is taken or refused, and a beginning of it where the stream breaks. -/
inductive Conducted (crates : Crates) (request : Request) (config : Option WebSocketConfig) (io : Stream)
    (come : List UInt8) : Connecting (WebSocket × Response) × ResponseRead → Prop
  | unopened {error : HandshakeError} {framed : ResponseRead} (refuses : openHandshake crates request = .error error)
    (quiet : framed.io = io) : Conducted crates request config io come (.err (.Handshake error), framed)
  | broken {data : VerifyData} {sent part : List UInt8} {stop : Connecting (WebSocket × Response)} {framed : ResponseRead}
    (opens : openHandshake crates request = .ok (data, sent)) (begun : part <+: sent)
    (accepted : framed.io.accepted = io.accepted ++ part) (broken : Broken stop) :
    Conducted crates request config io come (stop, framed)
  | unanswered {data : VerifyData} {sent : List UInt8} {framed : ResponseRead}
    (opens : openHandshake crates request = .ok (data, sent)) (accepted : framed.io.accepted = io.accepted ++ sent)
    (nothing : framed.buffer = []) :
    Conducted crates request config io come (.err (.Handshake (.Protocol .HandshakeIncomplete)), framed)
  | refused {data : VerifyData} {sent received : List UInt8} {error : HandshakeError} {framed : ResponseRead}
    (opens : openHandshake crates request = .ok (data, sent)) (accepted : framed.io.accepted = io.accepted ++ sent)
    (arrived : received <+: come) (decided : decodeResponse crates received ≠ .ok .Insufficient)
    (refuses : finishHandshake crates data received = .error error) :
    Conducted crates request config io come (.err (.Handshake error), framed)
  | opened {data : VerifyData} {sent received : List UInt8} {size : Nat} {head resp : Response} {framed : ResponseRead}
    (opens : openHandshake crates request = .ok (data, sent)) (accepted : framed.io.accepted = io.accepted ++ sent)
    (arrived : received <+: come) (decoded : decodeResponse crates received = .ok (.Some (size, head)))
    (takes : finishHandshake crates data received = .ok resp) (left : framed.buffer = received.drop size) :
    Conducted crates request config io come (.ok (framed.toWebSocket .Client config, resp), framed)
  -- where the parser has counted more bytes than there were
  | panicked {data : VerifyData} {sent received : List UInt8} {size : Nat} {head : Response} {framed : ResponseRead}
    (opens : openHandshake crates request = .ok (data, sent)) (accepted : framed.io.accepted = io.accepted ++ sent)
    (arrived : received <+: come) (decoded : decodeResponse crates received = .ok (.Some (size, head)))
    (outruns : received.length < size) : Conducted crates request config io come (.panic .advancePastEnd, framed)

variable {crates : Crates} {request : Request} {config : Option WebSocketConfig} {io : Stream} {come : List UInt8}

/-- What the client has written is a beginning of its request. -/
theorem Conducted.written {data : VerifyData} {sent : List UInt8}
    {result : Connecting (WebSocket × Response) × ResponseRead} (conducted : Conducted crates request config io come result)
    (opens : openHandshake crates request = .ok (data, sent)) :
    ∃ part, part <+: sent ∧ result.2.io.accepted = io.accepted ++ part := by
  cases conducted with
  | unopened refuses =>
    rw [opens] at refuses
    cases refuses
  | broken opened begun accepted =>
    rw [opens] at opened
    cases opened
    exact ⟨_, begun, accepted⟩
  | unanswered opened accepted | refused opened accepted | opened opened accepted | panicked opened accepted =>
    rw [opens] at opened
    cases opened
    exact ⟨_, List.prefix_refl _, accepted⟩

end Client

/-! ## What the two sides exchange -/

/-- A request that the client writes, with what the server answers to it and what each side decodes. -/
structure Exchange (crates : Crates) (callback : Server.Callback) (request : Request) (data : VerifyData)
    (sent head body : List UInt8) (outcome : Except HandshakeError Unit) (returned : Client.Response) : Prop where
  opens : Client.openHandshake crates request = .ok (data, sent)
  requests : ∃ received, Server.Requests crates sent received
  answers : Server.serverHandshake crates callback sent = (head ++ body, outcome)
  responds : Client.decodeResponse crates head = .ok (.Some (head.length, returned))
  begins : head ≠ []

/-- How the handshake of the server ends on what a client writes.  Nothing has been written where the request did not come;
where it did, a beginning of the answer when the stream breaks, and otherwise all of it. -/
inductive Server.Ends (sent answer : List UInt8) (outcome : Except HandshakeError Unit) (config : Option WebSocketConfig)
    (io : Stream) (come : List UInt8) : Connecting WebSocket × RequestRead → Prop
  | unasked {stop : Connecting WebSocket} {framed : RequestRead} (quiet : framed.io.accepted = io.accepted)
    (stops : Broken stop ∨ stop = .err (.Handshake (.Protocol .HandshakeIncomplete))) :
    Ends sent answer outcome config io come (stop, framed)
  | broken {stop : Connecting WebSocket} {part : List UInt8} {framed : RequestRead} (asked : sent <+: come)
    (begun : part <+: answer) (accepted : framed.io.accepted = io.accepted ++ part) (broken : Broken stop) :
    Ends sent answer outcome config io come (stop, framed)
  | refused {error : HandshakeError} {framed : RequestRead} (asked : sent <+: come) (refuses : outcome = .error error)
    (accepted : framed.io.accepted = io.accepted ++ answer) :
    Ends sent answer outcome config io come (.err (.Handshake error), framed)
  | opened {framed : RequestRead} (asked : sent <+: come) (agrees : outcome = .ok ())
    (accepted : framed.io.accepted = io.accepted ++ answer) :
    Ends sent answer outcome config io come (.ok (framed.toWebSocket .Server config), framed)

/-- What the client makes of a response with these bytes behind its head. -/
def Client.VerifyData.judge (data : VerifyData) (returned : Response) (tail : List UInt8) :
    Except HandshakeError Response :=
  match data.verifyResponse returned with
  | .error (.Http refused) => .error (.Http { refused with body := some tail })
  | verified => verified

/-- How the handshake of the client ends on what a server writes.  Its verdict is that on the head of the answer, whatever
else has come with it. -/
inductive Client.Ends (data : VerifyData) (sent head : List UInt8) (returned : Response) (config : Option WebSocketConfig)
    (io : Stream) (come : List UInt8) : Connecting (WebSocket × Response) × ResponseRead → Prop
  | broken {stop : Connecting (WebSocket × Response)} {part : List UInt8} {framed : ResponseRead} (begun : part <+: sent)
    (accepted : framed.io.accepted = io.accepted ++ part) (broken : Broken stop) :
    Ends data sent head returned config io come (stop, framed)
  | unanswered {framed : ResponseRead} (accepted : framed.io.accepted = io.accepted ++ sent) :
    Ends data sent head returned config io come (.err (.Handshake (.Protocol .HandshakeIncomplete)), framed)
  | refused {tail : List UInt8} {error : HandshakeError} {framed : ResponseRead}
    (accepted : framed.io.accepted = io.accepted ++ sent) (arrived : head ++ tail <+: come)
    (refuses : data.judge returned tail = .error error) :
    Ends data sent head returned config io come (.err (.Handshake error), framed)
  | opened {framed : ResponseRead} (accepted : framed.io.accepted = io.accepted ++ sent)
    (arrived : head ++ framed.buffer <+: come) (verified : data.verifyResponse returned = .ok returned) :
    Ends data sent head returned config io come (.ok (framed.toWebSocket .Client config, returned), framed)

section Exchange

variable {crates : Crates} {callback : Server.Callback} {request : Request} {data : VerifyData}
  {sent head body : List UInt8} {outcome : Except HandshakeError Unit} {returned : Client.Response}

/-- The head of an answer is decoded whatever follows it, and a part of it not at all. -/
theorem Exchange.cut (exchange : Exchange crates callback request data sent head body outcome returned)
    (delimits : crates.Delimits) {part following : List UInt8} (begun : part <+: head ++ following) :
    (∃ tail, part = head ++ tail ∧ Client.decodeResponse crates part = .ok (.Some (head.length, returned))) ∨
      Client.decodeResponse crates part = .ok .Insufficient := by
  have responds := exchange.responds
  obtain ⟨raw, complete, converted⟩ := decodeHead_complete responds
  obtain ⟨rest, stream⟩ := begun
  obtain ⟨more, rfl, _⟩ | ⟨tail, rfl, _⟩ := List.append_eq_append_iff.mp stream
  · by_cases unended : more = []
    · subst unended
      rw [List.append_nil] at responds ⊢
      exact .inl ⟨[], (List.append_nil part).symm, responds⟩
    · right
      rw [Client.decodeResponse, delimits.part complete unended, decodeHead]
  · refine .inl ⟨tail, rfl, ?_⟩
    rw [Client.decodeResponse, delimits.whole complete, decodeHead, converted]
    rfl

/-- What the server has written is a beginning of its answer. -/
theorem Server.Ends.written {answer come : List UInt8} {config : Option WebSocketConfig} {io : Stream}
    {result : Connecting WebSocket × RequestRead} (ends : Ends sent answer outcome config io come result) :
    ∃ part, part <+: answer ∧ result.2.io.accepted = io.accepted ++ part ∧
      ((∃ socket, result.1 = .ok socket) → part = answer) := by
  cases ends with
  | unasked quiet stops =>
    refine ⟨[], List.nil_prefix, quiet.trans (List.append_nil _).symm, fun ⟨socket, agrees⟩ => ?_⟩
    rcases stops with (_ | _) | rfl <;> cases agrees
  | broken asked begun accepted broken =>
    refine ⟨_, begun, accepted, fun ⟨socket, agrees⟩ => ?_⟩
    cases broken <;> cases agrees
  | refused asked refuses accepted => exact ⟨_, List.prefix_refl _, accepted, fun _ => rfl⟩
  | opened asked agrees accepted => exact ⟨_, List.prefix_refl _, accepted, fun _ => rfl⟩

theorem Server.Ends.agreed {answer come : List UInt8} {config : Option WebSocketConfig} {io : Stream}
    {result : Connecting WebSocket × RequestRead} (ends : Ends sent answer outcome config io come result)
    {socket : WebSocket} (agrees : result.1 = .ok socket) : outcome = .ok () ∧ sent <+: come := by
  cases ends with
  | unasked quiet stops => rcases stops with (_ | _) | rfl <;> cases agrees
  | broken asked begun accepted broken => cases broken <;> cases agrees
  | refused asked refuses accepted => cases agrees
  | opened asked ok accepted => exact ⟨ok, asked⟩

theorem Server.Ends.failed {answer come : List UInt8} {config : Option WebSocketConfig} {io : Stream}
    {result : Connecting WebSocket × RequestRead} (ends : Ends sent answer outcome config io come result)
    {error : HandshakeError} (fails : result.1 = .err (.Handshake error)) :
    error = .Protocol .HandshakeIncomplete ∨ outcome = .error error := by
  cases ends with
  | unasked quiet stops =>
    rcases stops with (_ | _) | rfl <;> cases fails
    exact .inl rfl
  | broken asked begun accepted broken => cases broken <;> cases fails
  | refused asked refuses accepted =>
    cases fails
    exact .inr refuses
  | opened asked ok accepted => cases fails

theorem Client.Ends.verified {come : List UInt8} {config : Option WebSocketConfig} {io : Stream}
    {result : Connecting (WebSocket × Response) × ResponseRead} (ends : Ends data sent head returned config io come result)
    {socket : WebSocket} {response : Response} (opens : result.1 = .ok (socket, response)) :
    data.verifyResponse returned = .ok returned ∧ head <+: come := by
  cases ends with
  | broken begun accepted broken => cases broken <;> cases opens
  | unanswered => cases opens
  | refused => cases opens
  | opened accepted arrived verified => exact ⟨verified, (List.prefix_append ..).trans arrived⟩

theorem Client.Ends.failed {come : List UInt8} {config : Option WebSocketConfig} {io : Stream}
    {result : Connecting (WebSocket × Response) × ResponseRead} (ends : Ends data sent head returned config io come result)
    {error : HandshakeError} (fails : result.1 = .err (.Handshake error)) :
    error = .Protocol .HandshakeIncomplete ∨
      ∃ tail, head ++ tail <+: come ∧ data.judge returned tail = .error error := by
  cases ends with
  | broken begun accepted broken => cases broken <;> cases fails
  | unanswered =>
    cases fails
    exact .inl rfl
  | refused accepted arrived refuses =>
    cases fails
    exact .inr ⟨_, arrived, refuses⟩
  | opened => cases fails

theorem Server.Ends.calm {answer come : List UInt8} {config : Option WebSocketConfig} {io : Stream}
    {result : Connecting WebSocket × RequestRead} (ends : Ends sent answer outcome config io come result) (panic : Panic) :
    result.1 ≠ .panic panic := by
  intro panics
  cases ends with
  | unasked quiet stops => rcases stops with (_ | _) | rfl <;> cases panics
  | broken asked begun accepted broken => cases broken <;> cases panics
  | refused | opened => cases panics

theorem Client.Ends.calm {come : List UInt8} {config : Option WebSocketConfig} {io : Stream}
    {result : Connecting (WebSocket × Response) × ResponseRead} (ends : Ends data sent head returned config io come result)
    (panic : Panic) : result.1 ≠ .panic panic := by
  intro panics
  cases ends with
  | broken begun accepted broken => cases broken <;> cases panics
  | unanswered | refused | opened => cases panics

end Exchange

/-! ## Callbacks that refuse -/

/-- A response that refuses the connection, as a client can read it. -/
structure Server.Refuses (resp : ErrorResponse) : Prop where
  unsuccessful : resp.status.isSuccess = false
  status : resp.status ≠ .SWITCHING_PROTOCOLS
  version : resp.version = .HTTP_11
  printable : ∀ line ∈ resp.headers.entries, Printable line.2.bytes
  few : resp.headers.entries.length ≤ MAX_HEADERS

/-- What may be decided about a response: to add to it, or to refuse the connection. -/
def Server.Decides (created : Response) : Except ErrorResponse Response → Prop
  | .ok resp => Extends created resp
  | .error resp => Refuses resp

/-- A callback that adds to the response or refuses the connection, as it likes. -/
def Server.Polite (crates : Crates) (callback : Callback) : Prop :=
  ∀ received created, createResponse crates received = .ok created → Decides created (callback received created)

/-- What a client is told that has understood an answer and cannot go on. -/
inductive Client.Told (request : Request) : Except Server.ErrorResponse Server.Response → HandshakeError → Prop
  | unchosen {resp : Server.Response} {error : SubProtocolError} (other : ¬ Chosen request resp) :
    Told request (.ok resp) (.Protocol (.SecWebSocketSubProtocolError error))
  | refused {resp : Server.ErrorResponse} {told : Response} {part : List UInt8} (status : told.status = resp.status)
    (headers : ∀ name, (told.headers.get name).map HeaderValue.bytes = (resp.headers.get name).map HeaderValue.bytes)
    (body : told.body = some part) (begun : part <+: resp.body.getD []) : Told request (.error resp) (.Http told)

/-- What an exchange comes to, by what the callback decides. -/
inductive Decided (crates : Crates) (request : Request) (data : VerifyData) (head body : List UInt8)
    (outcome : Except HandshakeError Unit) (returned : Client.Response) :
    Except Server.ErrorResponse Server.Response → Prop
  | agrees {resp : Server.Response} (writes : head = Server.generateResponse crates resp) (nothing : body = [])
    (succeeds : outcome = .ok ())
    (verified : (Chosen request resp ∧ data.verifyResponse returned = .ok returned) ∨
      (¬ Chosen request resp ∧
        ∃ error, data.verifyResponse returned = .error (.Protocol (.SecWebSocketSubProtocolError error)))) :
    Decided crates request data head body outcome returned (.ok resp)
  | refuses {resp : Server.ErrorResponse} (writes : head = Server.generateResponse crates resp)
    (adds : body = resp.body.getD []) (fails : outcome = .error (.Http resp)) (status : returned.status = resp.status)
    (headers : ∀ name, (returned.headers.get name).map HeaderValue.bytes = (resp.headers.get name).map HeaderValue.bytes)
    (other : resp.status ≠ .SWITCHING_PROTOCOLS) :
    Decided crates request data head body outcome returned (.error resp)

section Concur

variable {crates : Crates} {callback : Server.Callback} {request : Request} {data : VerifyData}
  {sent head body : List UInt8} {outcome : Except HandshakeError Unit} {returned : Client.Response}
  {verdict : Except Server.ErrorResponse Server.Response}

theorem Server.generateResponse_ne_nil {β : Type} (crates : Crates) (resp : MonoioTungstenite.Response β) :
    generateResponse crates resp ≠ [] := by
  simp [generateResponse, ascii]

/-- A negotiable request is exchanged for what a polite callback decides. -/
theorem Negotiable.exchange (documented : crates.Documented) (negotiable : Negotiable request)
    (polite : Server.Polite crates callback) :
    ∃ data sent received created head body outcome returned,
      (∀ name, (received.headers.get name).map HeaderValue.bytes = (request.headers.get name).map HeaderValue.bytes) ∧
      Server.createResponse crates received = .ok created ∧
      Exchange crates callback request data sent head body outcome returned ∧
      Decided crates request data head body outcome returned (callback received created) := by
  obtain ⟨key, sent, received, created, opens, requests, shown, creates, status, version, matched⟩ :=
    negotiable.created documented
  have decides := polite received created creates
  have answers : Server.serverHandshake crates callback sent = Server.answerRequest crates callback received := by
    rw [Server.serverHandshake, requests]
    simp
  unfold Server.answerRequest at answers
  rw [creates] at answers
  dsimp only at answers
  cases verdict : callback received created with
  | ok resp =>
    rw [verdict] at decides answers
    have adds : Server.Extends created resp := decides
    obtain ⟨returned, responds, passes, chosen⟩ := adds.decoded documented status version matched
    refine ⟨_, sent, received, created, Server.generateResponse crates resp, [], .ok (), returned, shown, creates,
      ⟨opens, ⟨received, requests⟩, by rw [List.append_nil, answers], responds, Server.generateResponse_ne_nil crates resp⟩, ?_⟩
    rw [verdict]
    exact .agrees rfl rfl rfl (verifyResponse_chosen passes chosen adds.printable rfl)
  | error resp =>
    rw [verdict] at decides answers
    have refuses : Server.Refuses resp := decides
    have unsuccessful : ¬ resp.status.isSuccess = true := by rw [refuses.unsuccessful]; decide
    dsimp only at answers
    rw [if_neg unsuccessful] at answers
    obtain ⟨returned, responds, same, headers⟩ :=
      Server.generateResponse_decoded documented refuses.version refuses.printable refuses.few
    refine ⟨_, sent, received, created, Server.generateResponse crates resp, resp.body.getD [], .error (.Http resp), returned,
      shown, creates, ⟨opens, ⟨received, requests⟩, answers, responds, Server.generateResponse_ne_nil crates resp⟩, ?_⟩
    rw [verdict]
    exact .refuses rfl rfl rfl same headers refuses.status

/-- Whoever takes a response has been agreed to. -/
theorem Decided.taken (decided : Decided crates request data head body outcome returned verdict)
    (verified : data.verifyResponse returned = .ok returned) :
    outcome = .ok () ∧ body = [] ∧ ∃ resp, verdict = .ok resp ∧ Chosen request resp := by
  cases decided with
  | agrees writes nothing succeeds verdicts =>
    refine ⟨succeeds, nothing, _, rfl, ?_⟩
    rcases verdicts with ⟨chosen, _⟩ | ⟨_, error, refused⟩
    · exact chosen
    · rw [refused] at verified
      cases verified
  | refuses writes adds fails status headers other =>
    rw [Client.VerifyData.verifyResponse, if_pos (by rw [status]; exact other)] at verified
    cases verified

/-- Whoever judges a response and cannot go on is told what has been decided, if the body is a beginning of the one that
was written. -/
theorem Decided.told (decided : Decided crates request data head body outcome returned verdict) {tail : List UInt8}
    (begun : outcome ≠ .ok () → tail <+: body) {error : HandshakeError} (refuses : data.judge returned tail = .error error) :
    Client.Told request verdict error := by
  cases decided with
  | agrees writes nothing succeeds verdicts =>
    rcases verdicts with ⟨_, verified⟩ | ⟨other, reason, refused⟩
    · rw [Client.VerifyData.judge, verified] at refuses
      cases refuses
    · rw [Client.VerifyData.judge, refused] at refuses
      cases refuses
      exact .unchosen other
  | refuses writes adds fails status headers other =>
    have refused : data.verifyResponse returned = .error (.Http returned) := by
      rw [Client.VerifyData.verifyResponse, if_pos (by rw [status]; exact other)]
    rw [Client.VerifyData.judge, refused] at refuses
    cases refuses
    have inside : tail <+: body := begun (by rw [fails]; intro same; cases same)
    exact .refused status headers rfl (adds ▸ inside)

end Concur

end MonoioTungstenite
