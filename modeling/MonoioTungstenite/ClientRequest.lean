import MonoioTungstenite.Client

/-! # Requests from URIs

`client.rs` and `tls.rs`: the request that is made for a URI, where its connection goes, and for which name TLS is
started.  The crate is built with TLS.  Connecting and the TLS handshake itself are left out: what is modelled is
what they are called with. -/

namespace MonoioTungstenite

open Lib (ascii)

namespace Client

/-! ## The request -/

/-- Generates a random key for the `Sec-WebSocket-Key` header, from 16 random bytes. -/
def generateKey (crates : Crates) (random : List UInt8) : List UInt8 := crates.base64 random

/-- The authority without the user in front of the host. -/
def hostHeader (authority : List UInt8) : List UInt8 :=
  match authority.dropWhile (· ≠ 64) with
  | [] => authority
  | _ :: host => host

/-- The lines of a request for this host. -/
def clientHeaders (crates : Crates) (random host : List UInt8) : List Lib.Head.Field :=
  [(ascii "Host", host), (ascii "Connection", ascii "Upgrade"), (ascii "Upgrade", ascii "websocket"),
    (ascii "Sec-WebSocket-Version", ascii "13"), (ascii "Sec-WebSocket-Key", generateKey crates random)]

/-- `impl IntoClientRequest for Uri`; the builder of `http` checks a header like one that has been parsed. -/
def intoClientRequest (crates : Crates) (random : List UInt8) (uri : Uri) : Except HandshakeError Request :=
  match uri.authority with
  | none => .error (.Url .NoHostName)
  | some authority =>
    let host := hostHeader authority
    if host.isEmpty then .error (.Url .EmptyHostName)
    else do
      let headers ← HeaderMap.new.appendHttparse (clientHeaders crates random host)
      return ⟨ascii "GET", uri, .HTTP_11, headers⟩

/-- Builder for a custom request with additional headers and sub protocols. -/
structure ClientRequestBuilder where
  uri : Uri
  additionalHeaders : List Lib.Head.Field
  subprotocols : List (List UInt8)
  deriving DecidableEq

namespace ClientRequestBuilder

def new (uri : Uri) : ClientRequestBuilder := ⟨uri, [], []⟩

/-- Adds an additional header to the handshake request. -/
def withHeader (key value : List UInt8) (builder : ClientRequestBuilder) : ClientRequestBuilder :=
  { builder with additionalHeaders := builder.additionalHeaders ++ [(key, value)] }

/-- Adds a protocol to the handshake request subprotocols. -/
def withSubProtocol (protocol : List UInt8) (builder : ClientRequestBuilder) : ClientRequestBuilder :=
  { builder with subprotocols := builder.subprotocols ++ [protocol] }

/-- `impl IntoClientRequest for ClientRequestBuilder` -/
def intoClientRequest (crates : Crates) (random : List UInt8) (builder : ClientRequestBuilder) :
    Except HandshakeError Request := do
  let request ← Client.intoClientRequest crates random builder.uri
  let headers ← request.headers.appendHttparse builder.additionalHeaders
  let protocols :=
    if builder.subprotocols.isEmpty then []
    else [(ascii "Sec-WebSocket-Protocol", (ascii ", ").intercalate builder.subprotocols)]
  let headers ← headers.appendHttparse protocols
  return { request with headers }

end ClientRequestBuilder

/-! ## The connection -/

/-- `perpare_tcp_stream`: the host and the port that it connects to. -/
def perpareTcpStream (request : Request) : Except HandshakeError (List UInt8 × Nat) := do
  let mode ← uriMode request.uri
  match request.uri.host with
  | none => .error (.Url .NoHostName)
  | some host =>
    let host :=
      if host.head? = some 91 ∧ host.getLast? = some 93 then host.tail.dropLast else host
    let port := request.uri.portU16.getD (match mode with | .Plain => 80 | .Tls => 443)
    return (host, port)

/-- A connector that can be used when establishing connections. -/
inductive Connector where
  | Plain
  | NativeTls
  | Rustls
  deriving DecidableEq, Repr

/-- `wrap_stream`: the name that TLS is started for, if it is. -/
def wrapStream (connector : Connector) (domain : List UInt8) (mode : Mode) :
    Except HandshakeError (Option (List UInt8)) :=
  match mode, connector with
  | .Plain, _ => .ok none
  | .Tls, .Plain => .error (.Url .TlsFeatureNotEnabled)
  | .Tls, .NativeTls | .Tls, .Rustls => .ok (some domain)

/-- `client_tls_with_config`, up to the handshake; `preferred` is the connector of the features it is built with. -/
def clientTlsWithConfig (preferred : Connector) (connector : Option Connector) (request : Request) :
    Except HandshakeError (Option (List UInt8)) :=
  match request.uri.host with
  | none => .error (.Url .NoHostName)
  | some domain => do
    let mode ← uriMode request.uri
    wrapStream (connector.getD preferred) domain mode

end Client

end MonoioTungstenite
