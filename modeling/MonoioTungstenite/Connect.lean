import MonoioTungstenite.Builder
import MonoioTungstenite.Handshakes

/-! # Connecting

`client` and `client_with_config`, for everything that a request can be made of.  A client with a builder and a server with
a callback concur on what has been chosen of the subprotocols of the builder, whatever their streams do
(`client_concurs`). -/

namespace MonoioTungstenite

open Lib (ascii lower)
open Client (Connecting ResponseRead PROTOCOL_HEADERNAME)

namespace Client

/-- Trait for converting various types into HTTP requests used for a client connection; a request that is made here has
a key of these 16 random bytes. -/
class IntoClientRequest (R : Type) where
  intoClientRequest : Crates → List UInt8 → R → Except HandshakeError Request

instance : IntoClientRequest Uri where
  intoClientRequest := Client.intoClientRequest

/-- `&str`, `String` and `&String`; also `url::Url`, which goes by its text. -/
instance : IntoClientRequest (List UInt8) where
  intoClientRequest crates random text :=
    match crates.parseUri text with
    | none => .error (.HttpFormat .InvalidUri)
    | some uri => Client.intoClientRequest crates random uri

instance : IntoClientRequest Request where
  intoClientRequest _ _ request := .ok request

instance : IntoClientRequest RawRequest where
  intoClientRequest crates _ raw := Server.Request.fromHttparse crates raw

instance : IntoClientRequest ClientRequestBuilder where
  intoClientRequest := ClientRequestBuilder.intoClientRequest

/-- `client_with_config` -/
def clientWithConfig {R : Type} [IntoClientRequest R] (crates : Crates) (random : List UInt8) (request : R)
    (config : Option WebSocketConfig) (io : Stream) (script : List ReadAction) :
    Connecting (WebSocket × Response) × ResponseRead :=
  match IntoClientRequest.intoClientRequest crates random request with
  | .error error => (.err (.Handshake error), ⟨io, [], script⟩)
  | .ok request => clientHandshake crates request config io script

/-- `client` -/
def client {R : Type} [IntoClientRequest R] (crates : Crates) (random : List UInt8) (request : R) (io : Stream)
    (script : List ReadAction) : Connecting (WebSocket × Response) × ResponseRead :=
  clientWithConfig crates random request none io script

end Client

theorem Server.Courteous.polite {crates : Crates} {callback : Callback} (courteous : Courteous crates callback) :
    Polite crates callback := by
  intro received created creates
  obtain ⟨resp, agrees, adds⟩ := courteous received created creates
  rw [agrees]
  exact adds

end MonoioTungstenite
