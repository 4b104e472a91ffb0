import MonoioTungstenite.Handshake

/-! # The client side of the handshake

`handshake/client.rs`, with `uri_mode` of `client.rs`.  `openHandshake` is what
`client_handshake` does before it writes, and `finishHandshake` what it does with the response; the stream
between them is in `ClientHandshake`. -/

namespace MonoioTungstenite

open Lib (ascii lower)

namespace Client

/-! ## Requests -/

inductive Mode where
  | Plain
  | Tls
  deriving DecidableEq, Repr

/-- Gets the mode of the given URL. -/
def uriMode (uri : Uri) : Except HandshakeError Mode :=
  if uri.scheme = some (ascii "ws") then .ok .Plain
  else if uri.scheme = some (ascii "wss") then .ok .Tls
  else .error (.Url .UnsupportedUrlScheme)

/-- `KEY_HEADERNAME` -/
def KEY_HEADERNAME : List UInt8 := ascii "Sec-WebSocket-Key"

/-- Headers that must be present in a correct request. -/
def WEBSOCKET_HEADERS : List (List UInt8) :=
  [ascii "Host", ascii "Connection", ascii "Upgrade", ascii "Sec-WebSocket-Version", KEY_HEADERNAME]

/-- The error for a header that is missing or duplicated. -/
def invalidHeader (name : List UInt8) : HandshakeError :=
  match HeaderName.fromBytes name with
  | some name => .Protocol (.InvalidHeader name)
  | none => .HttpFormat .InvalidHeaderName

/-- Writes the first value of each of these headers, and takes the header out of the map. -/
def writeHeaders : List (List UInt8) → HeaderMap → Except HandshakeError (List UInt8 × HeaderMap)
  | [], headers => .ok ([], headers)
  | header :: more, headers =>
    match headers.remove header with
    | (none, _) => .error (invalidHeader header)
    | (some value, headers) =>
      match value.toStr with
      | none => .error (.Utf8 (.header header value))
      | some text =>
        (writeHeaders more headers).map fun (buf, headers) => (Lib.Head.fieldLine (header, text) ++ buf, headers)

/-- The name as it is written; some servers do not ignore the case of these. -/
def writtenName (name : HeaderName) : List UInt8 :=
  if name.bytes = ascii "sec-websocket-protocol" then ascii "Sec-WebSocket-Protocol"
  else if name.bytes = ascii "origin" then ascii "Origin"
  else name.bytes

/-- Writes the headers that are left in the map. -/
def writeRest : List HeaderLine → Except HandshakeError (List UInt8)
  | [] => .ok []
  | (name, value) :: more =>
    -- the necessary headers have been written once and removed from the map
    if (WEBSOCKET_HEADERS.map lower).contains name.bytes then .error (.Protocol (.InvalidHeader name))
    else
      match value.toStr with
      | none => .error (.Utf8 (.header (writtenName name) value))
      | some text => (writeRest more).map fun buf => Lib.Head.fieldLine (writtenName name, text) ++ buf

/-- `generate_request` -/
def generateRequest (crates : Crates) (req : Request) : Except HandshakeError (List UInt8) :=
  match req.uri.pathAndQuery with
  | none => .error (.Url .NoPathOrQuery)
  | some path => do
    let buf := ascii "GET " ++ path.asStr ++ ascii " " ++ req.version.text ++ ascii "\r\n"
    let (required, headers) ← writeHeaders WEBSOCKET_HEADERS req.headers
    let rest ← writeRest (crates.iter headers)
    return buf ++ required ++ rest ++ ascii "\r\n"

/-- `get_websocket_key` -/
def getWebsocketKey (req : Request) : Except HandshakeError (List UInt8) :=
  match req.headers.get KEY_HEADERNAME with
  | none => .error (invalidHeader KEY_HEADERNAME)
  | some key =>
    match key.toStr with
    | none => .error (.Utf8 .plain)
    | some key => .ok key

/-- `extract_subprotocols_from_request` -/
def extractSubprotocols (req : Request) : Except HandshakeError (Option (List (List UInt8))) :=
  match req.headers.get (ascii "Sec-WebSocket-Protocol") with
  | none => .ok none
  | some subprotocols =>
    match subprotocols.toStr with
    | none => .error (.Utf8 .plain)
    | some text => .ok (some ((text.splitOn 44).map Lib.Head.trim))

/-! ## Responses -/

/-- `client::Response` -/
abbrev Response := MonoioTungstenite.Response (Option (List UInt8))

/-- `Response::from_httparse` -/
def Response.fromHttparse (raw : RawResponse) : Except HandshakeError Response :=
  if raw.version < 1 then .error (.Protocol .WrongHttpVersion)
  else do
    let headers ← HeaderMap.fromHttparse raw.headers
    match StatusCode.fromU16 raw.code with
    | none => .error (.HttpFormat .InvalidStatusCode)
    | some status => return ⟨status, .HTTP_11, headers, none⟩

/-- `ResponseDecoder::decode` -/
def decodeResponse (crates : Crates) (src : List UInt8) : Except HandshakeError (Decoded (Nat × Response)) :=
  decodeHead (crates.parseResponse MAX_HEADERS src) Response.fromHttparse

/-- Information for handshake verification. -/
structure VerifyData where
  acceptKey : List UInt8
  subprotocols : Option (List (List UInt8))
  deriving DecidableEq, Repr

/-- The first value of the header is this text, without regard to case. -/
def headerIs (headers : HeaderMap) (name text : List UInt8) : Bool :=
  ((headers.get name).bind HeaderValue.toStr).any fun value => Lib.eqIgnoreCase value text

/-- The subprotocol of the response is one that was asked for. -/
def VerifyData.verifySubprotocol (data : VerifyData) (headers : HeaderMap) : Except HandshakeError Unit :=
  match headers.get (ascii "Sec-WebSocket-Protocol"), data.subprotocols with
  | none, none => .ok ()
  | none, some _ => .error (.Protocol (.SecWebSocketSubProtocolError .NoSubProtocol))
  | some _, none => .error (.Protocol (.SecWebSocketSubProtocolError .ServerSentSubProtocolNoneRequested))
  | some returned, some accepted =>
    match returned.toStr with
    | none => .error (.Utf8 .plain)
    | some returned =>
      if accepted.contains returned then .ok ()
      else .error (.Protocol (.SecWebSocketSubProtocolError .InvalidSubProtocol))

/-- Verifies the response from the server against the expected values. -/
def VerifyData.verifyResponse (data : VerifyData) (resp : Response) : Except HandshakeError Response :=
  let headers := resp.headers
  if resp.status ≠ .SWITCHING_PROTOCOLS then .error (.Http resp)
  else if ¬ headerIs headers (ascii "Upgrade") (ascii "websocket") then
    .error (.Protocol .MissingUpgradeWebSocketHeader)
  else if ¬ headerIs headers (ascii "Connection") (ascii "Upgrade") then
    .error (.Protocol .MissingConnectionUpgradeHeader)
  else if ¬ (headers.get (ascii "Sec-WebSocket-Accept")).any (fun value => value.bytes = data.acceptKey) then
    .error (.Protocol .SecWebSocketAcceptKeyMismatch)
  else (data.verifySubprotocol headers).map fun _ => resp

/-! ## The handshake -/

/-- `client_handshake`, up to the request that it writes. -/
def openHandshake (crates : Crates) (request : Request) : Except HandshakeError (VerifyData × List UInt8) :=
  if request.method ≠ ascii "GET" then .error (.Protocol .WrongHttpMethod)
  else if request.version.rank < Version.HTTP_11.rank then .error (.Protocol .WrongHttpVersion)
  else do
    -- only ws or wss are supported
    let _ ← uriMode request.uri
    let subprotocols ← extractSubprotocols request
    let key ← getWebsocketKey request
    let buf ← generateRequest crates request
    return (⟨deriveAcceptKey crates key, subprotocols⟩, buf)

/-- `client_handshake`, on what has come back when the head of the response is complete or the stream ends. -/
def finishHandshake (crates : Crates) (data : VerifyData) (received : List UInt8) : Except HandshakeError Response := do
  match ← decodeResponse crates received with
  | .Some (size, resp) =>
    match data.verifyResponse resp with
    | .error (.Http refused) => .error (.Http { refused with body := some (received.drop size) })
    | verified => verified
  | _ => .error (.Protocol .HandshakeIncomplete)

end Client

end MonoioTungstenite
