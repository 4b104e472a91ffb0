import MonoioTungstenite.Handshake

/-! # The server side of the handshake

`handshake/server.rs`.  `serverHandshake` gives the bytes that are written and what is returned, on what has
come in when the head of the request is complete or the stream ends. -/

namespace MonoioTungstenite

open Lib (ascii)

namespace Server

/-- `server::Response` -/
abbrev Response := MonoioTungstenite.Response Unit

/-- `server::ErrorResponse` -/
abbrev ErrorResponse := MonoioTungstenite.Response (Option (List UInt8))

/-- `http::response::Builder`: the head so far, or the first error. -/
abbrev Builder := Except HttpError (StatusCode × Version × HeaderMap)

/-- `Builder::header` -/
def Builder.header (name value : List UInt8) (builder : Builder) : Builder := do
  let (status, version, headers) ← builder
  match HeaderName.fromBytes name, HeaderValue.fromBytes value with
  | none, _ => .error .InvalidHeaderName
  | some _, none => .error .InvalidHeaderValue
  | some name, some value => return (status, version, headers.append name value)

/-- `Builder::body` -/
def Builder.body {β : Type} (body : β) (builder : Builder) : Except HandshakeError (MonoioTungstenite.Response β) :=
  match builder with
  | .error error => .error (.HttpFormat error)
  | .ok (status, version, headers) => .ok ⟨status, version, headers, body⟩

/-- One of the words of the header is this one, without regard to case. -/
def hasWord (value word : List UInt8) : Bool :=
  (value.splitOnP fun byte => byte = 32 || byte = 44).any fun piece => Lib.eqIgnoreCase piece word

/-- `create_parts` -/
def createParts (crates : Crates) (request : Request) : Except HandshakeError Builder :=
  let headers := request.headers
  if request.method ≠ ascii "GET" then .error (.Protocol .WrongHttpMethod)
  else if request.version.rank < Version.HTTP_11.rank then .error (.Protocol .WrongHttpVersion)
  else if ¬ ((headers.get (ascii "Connection")).bind HeaderValue.toStr).any (hasWord · (ascii "Upgrade")) then
    .error (.Protocol .MissingConnectionUpgradeHeader)
  else if ¬ ((headers.get (ascii "Upgrade")).bind HeaderValue.toStr).any (Lib.eqIgnoreCase · (ascii "websocket")) then
    .error (.Protocol .MissingUpgradeWebSocketHeader)
  else if ¬ (headers.get (ascii "Sec-WebSocket-Version")).any (fun value => value.bytes = ascii "13") then
    .error (.Protocol .MissingSecWebSocketVersionHeader)
  else
    match headers.get (ascii "Sec-WebSocket-Key") with
    | none => .error (.Protocol .MissingSecWebSocketKey)
    | some key =>
      let builder : Builder := .ok (.SWITCHING_PROTOCOLS, request.version, .new)
      .ok (builder
        |>.header (ascii "Connection") (ascii "Upgrade")
        |>.header (ascii "Upgrade") (ascii "websocket")
        |>.header (ascii "Sec-WebSocket-Accept") (deriveAcceptKey crates key.bytes))

/-- Creates a response for the request. -/
def createResponse (crates : Crates) (request : Request) : Except HandshakeError Response := do
  let builder ← createParts crates request
  builder.body ()

/-- `impl Display for StatusCode` -/
def statusText (crates : Crates) (status : StatusCode) : List UInt8 :=
  status.digits ++ ascii " " ++ (crates.canonicalReason status).getD (ascii "<unknown status code>")

/-- `generate_response` -/
def generateResponse {β : Type} (crates : Crates) (resp : MonoioTungstenite.Response β) : List UInt8 :=
  resp.version.text ++ ascii " " ++ statusText crates resp.status ++ ascii "\r\n" ++
    (crates.iter resp.headers).flatMap (fun (name, value) =>
      name.bytes ++ ascii ": " ++ value.bytes ++ ascii "\r\n") ++
    ascii "\r\n"

/-- `Request::from_httparse` -/
def Request.fromHttparse (crates : Crates) (raw : RawRequest) : Except HandshakeError Request :=
  if raw.method ≠ ascii "GET" then .error (.Protocol .WrongHttpMethod)
  else if raw.version < 1 then .error (.Protocol .WrongHttpVersion)
  else do
    let headers ← HeaderMap.fromHttparse raw.headers
    match crates.parseUri raw.path with
    | none => .error (.HttpFormat .InvalidUri)
    | some uri => return ⟨ascii "GET", uri, .HTTP_11, headers⟩

/-- `RequestDecoder::decode` -/
def decodeRequest (crates : Crates) (src : List UInt8) : Except HandshakeError (Decoded (Nat × Request)) :=
  decodeHead (crates.parseRequest MAX_HEADERS src) (Request.fromHttparse crates)

/-- The callback trait: the response to send, or one that refuses the connection. -/
abbrev Callback := Request → Response → Except ErrorResponse Response

/-- Stub for callback that does nothing. -/
def NoCallback : Callback := fun _ resp => .ok resp

/-- Answers a request that has been decoded. -/
def answerRequest (crates : Crates) (callback : Callback) (req : Request) :
    List UInt8 × Except HandshakeError Unit :=
  match createResponse crates req with
  | .error error => ([], .error error)
  | .ok resp =>
    match callback req resp with
    | .ok resp => (generateResponse crates resp, .ok ())
    | .error resp =>
      if resp.status.isSuccess then ([], .error (.Protocol .CustomResponseSuccessful))
      else (generateResponse crates resp ++ resp.body.getD [], .error (.Http resp))

/-- `server_handshake` -/
def serverHandshake (crates : Crates) (callback : Callback) (received : List UInt8) :
    List UInt8 × Except HandshakeError Unit :=
  match decodeRequest crates received with
  | .error error => ([], .error error)
  | .ok (.Some (size, req)) =>
    if received.length ≠ size then ([], .error (.Protocol .JunkAfterRequest))
    else answerRequest crates callback req
  | .ok _ => ([], .error (.Protocol .HandshakeIncomplete))

end Server

end MonoioTungstenite
