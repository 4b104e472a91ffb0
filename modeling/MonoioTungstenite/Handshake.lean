import MonoioTungstenite.Decode
import MonoioTungstenite.Http
import MonoioTungstenite.Lib.Head

/-! # The handshake

`handshake.rs` and `handshake/headers.rs`: the errors of a handshake, the key that the server derives, and the
decoding of a head that has been parsed.

What the handshake calls of other crates is a parameter (`Crates`), with what they are documented to do
(`Crates.Documented`).  SHA-1 is any function, and base64 any function to its alphabet. -/

namespace MonoioTungstenite

open Lib (ascii)

/-! ## Errors -/

/-- `httparse::Error` -/
inductive HttparseError where
  | HeaderName
  | HeaderValue
  | NewLine
  | Status
  | Token
  | TooManyHeaders
  | Version
  deriving DecidableEq, Repr

/-- `http::Error`, by what it comes from. -/
inductive HttpError where
  | InvalidHeaderName
  | InvalidHeaderValue
  | InvalidUri
  | InvalidStatusCode
  deriving DecidableEq, Repr

inductive SubProtocolError where
  | ServerSentSubProtocolNoneRequested
  | InvalidSubProtocol
  | NoSubProtocol
  deriving DecidableEq, Repr

inductive UrlError where
  | TlsFeatureNotEnabled
  | NoHostName
  | UnsupportedUrlScheme
  | EmptyHostName
  | NoPathOrQuery
  deriving DecidableEq, Repr

/-- The text of `Error::Utf8` in a handshake: that of `ToStrError`, alone or with the header it is about. -/
inductive ToStrText where
  | plain
  | header (name : List UInt8) (value : HeaderValue)
  deriving DecidableEq

/-- `ProtocolError`, of a handshake. -/
inductive HandshakeProtocolError where
  | WrongHttpMethod
  | WrongHttpVersion
  | MissingConnectionUpgradeHeader
  | MissingUpgradeWebSocketHeader
  | MissingSecWebSocketVersionHeader
  | MissingSecWebSocketKey
  | SecWebSocketAcceptKeyMismatch
  | SecWebSocketSubProtocolError (error : SubProtocolError)
  | JunkAfterRequest
  | CustomResponseSuccessful
  | InvalidHeader (name : HeaderName)
  | HandshakeIncomplete
  | HttparseError (error : HttparseError)
  deriving DecidableEq

/-- `Error`, of a handshake. -/
inductive HandshakeError where
  | Capacity (error : CapacityError)
  | Protocol (error : HandshakeProtocolError)
  | Utf8 (text : ToStrText)
  | Url (error : UrlError)
  | Http (response : Response (Option (List UInt8)))
  | HttpFormat (error : HttpError)
  deriving DecidableEq

/-- `impl From<httparse::Error> for Error` -/
def HandshakeError.ofHttparse : HttparseError → HandshakeError
  | .TooManyHeaders => .Capacity .TooManyHeaders
  | error => .Protocol (.HttparseError error)

/-! ## Other crates -/

/-- `httparse::Result` -/
inductive Parsed (α : Type) where
  | Partial
  | Complete (size : Nat) (value : α)
  | failed (error : HttparseError)
  deriving DecidableEq, Repr

/-- `httparse::Request`, when it is complete. -/
structure RawRequest where
  method : List UInt8
  path : List UInt8
  version : Nat
  headers : List Lib.Head.Field
  deriving DecidableEq, Repr

/-- `httparse::Response`, when it is complete. -/
structure RawResponse where
  version : Nat
  code : Nat
  headers : List Lib.Head.Field
  deriving DecidableEq, Repr

/-- What the handshake calls of other crates. -/
structure Crates where
  sha1 : List UInt8 → List UInt8
  base64 : List UInt8 → List UInt8
  iter : HeaderMap → List HeaderLine
  canonicalReason : StatusCode → Option (List UInt8)
  parseUri : List UInt8 → Option Uri
  /-- `httparse::Request::parse`, with room for so many headers -/
  parseRequest : Nat → List UInt8 → Parsed RawRequest
  parseResponse : Nat → List UInt8 → Parsed RawResponse

/-- The characters of base64. -/
def isBase64Byte (byte : UInt8) : Bool :=
  (48 ≤ byte && byte ≤ 57) || (65 ≤ byte && byte ≤ 90) || (97 ≤ byte && byte ≤ 122) || [43, 47, 61].contains byte

/-- A printable character, or a blank. -/
def isPrintable (byte : UInt8) : Bool := 32 ≤ byte && byte ≤ 126

/-- A header value in printable ASCII, without blanks around it. -/
structure Printable (value : List UInt8) : Prop where
  visible : value.all isPrintable = true
  trimmed : value.head? ≠ some 32 ∧ value.getLast? ≠ some 32

instance (value : List UInt8) : Decidable (Printable value) :=
  decidable_of_iff (value.all isPrintable = true ∧ value.head? ≠ some 32 ∧ value.getLast? ≠ some 32)
    ⟨fun ⟨visible, trimmed⟩ => ⟨visible, trimmed⟩, fun ⟨visible, trimmed⟩ => ⟨visible, trimmed⟩⟩

/-- A line that a parser takes back as it was written. -/
def Writable (field : Lib.Head.Field) : Prop := IsToken field.1 ∧ Printable field.2

/-- A target that begins with a slash. -/
def PathAndQuery.Absolute (path : PathAndQuery) : Prop := path.asStr.head? = some 47

/-- The first line of a request. -/
def requestLine (path : PathAndQuery) (version : Version) : List UInt8 :=
  ascii "GET " ++ path.asStr ++ ascii " " ++ version.text

/-- The first line of a response. -/
def statusLine (version : Version) (status : StatusCode) (reason : List UInt8) : List UInt8 :=
  version.text ++ ascii " " ++ status.digits ++ ascii " " ++ reason

/-- Base64 keeps to its alphabet. -/
def Encodes (base64 : List UInt8 → List UInt8) : Prop := ∀ bytes, (base64 bytes).all isBase64Byte = true

/-- What the crates are documented to do with a request: `http` iterates over all lines and parses a target that
begins with a slash, base64 keeps to its alphabet, and `httparse` inverts the lines of a head that has no more headers
than it has room for. -/
structure Crates.RequestsDocumented (crates : Crates) : Prop where
  iter : Iterates crates.iter
  base64 : Encodes crates.base64
  uri : ∀ path : PathAndQuery, path.Absolute →
    ∃ uri, crates.parseUri path.asStr = some uri ∧ uri.pathAndQuery.map PathAndQuery.asStr = some path.asStr
  request : ∀ (room : Nat) (path : PathAndQuery) (fields : List Lib.Head.Field), path.Absolute →
    fields.length ≤ room → (∀ field ∈ fields, Writable field) →
    crates.parseRequest room (Lib.Head.write (requestLine path .HTTP_11) fields) =
      .Complete (Lib.Head.write (requestLine path .HTTP_11) fields).length ⟨ascii "GET", path.asStr, 1, fields⟩

/-- What the crates are documented to do with a response as well: `http` names the reasons in printable characters,
and `httparse` inverts the lines of its head. -/
structure Crates.Documented (crates : Crates) : Prop extends crates.RequestsDocumented where
  reason : ∀ status, ∀ reason ∈ crates.canonicalReason status, reason.all isPrintable = true
  response : ∀ (room : Nat) (status : StatusCode) (reason : List UInt8) (fields : List Lib.Head.Field),
    reason.all isPrintable = true → fields.length ≤ room → (∀ field ∈ fields, Writable field) →
    crates.parseResponse room (Lib.Head.write (statusLine .HTTP_11 status reason) fields) =
      .Complete (Lib.Head.write (statusLine .HTTP_11 status reason) fields).length ⟨1, status.code, fields⟩

/-- `httparse` reports the length of the head of a response whatever follows it, and asks for more of a part of it. -/
structure Crates.Delimits (crates : Crates) : Prop where
  whole : ∀ {room : Nat} {head : List UInt8} {raw : RawResponse},
    crates.parseResponse room head = .Complete head.length raw →
    ∀ more, crates.parseResponse room (head ++ more) = .Complete head.length raw
  part : ∀ {room : Nat} {part more : List UInt8} {raw : RawResponse},
    crates.parseResponse room (part ++ more) = .Complete (part ++ more).length raw → more ≠ [] →
    crates.parseResponse room part = .Partial

/-! ## The key -/

/-- `WS_GUID` -/
def WS_GUID : List UInt8 := ascii "258EAFA5-E914-47DA-95CA-C5AB0DC85B11"

/-- Derives the `Sec-WebSocket-Accept` response header from a `Sec-WebSocket-Key` request header. -/
def deriveAcceptKey (crates : Crates) (requestKey : List UInt8) : List UInt8 :=
  crates.base64 (crates.sha1 (requestKey ++ WS_GUID))

/-! ## Decoding heads -/

/-- Limit for the number of header lines. -/
def MAX_HEADERS : Nat := 124

/-- Appends header lines as they have been parsed. -/
def HeaderMap.appendHttparse (headers : HeaderMap) : List Lib.Head.Field → Except HandshakeError HeaderMap
  | [] => .ok headers
  | (name, value) :: raw =>
    match HeaderName.fromBytes name, HeaderValue.fromBytes value with
    | none, _ => .error (.HttpFormat .InvalidHeaderName)
    | some _, none => .error (.HttpFormat .InvalidHeaderValue)
    | some name, some value => (headers.append name value).appendHttparse raw

/-- `HeaderMap::from_httparse` -/
def HeaderMap.fromHttparse (raw : List Lib.Head.Field) : Except HandshakeError HeaderMap :=
  HeaderMap.new.appendHttparse raw

/-- Decodes a head that is parsed and converted. -/
def decodeHead {α β : Type} (parsed : Parsed α) (convert : α → Except HandshakeError β) :
    Except HandshakeError (Decoded (Nat × β)) :=
  match parsed with
  | .failed error => .error (.ofHttparse error)
  | .Partial => .ok .Insufficient
  | .Complete size raw => (convert raw).map fun head => .Some (size, head)

/-! ## Printable values -/

theorem isPrintable_value {byte : UInt8} (printable : isPrintable byte = true) :
    isValueByte byte = true ∧ isVisible byte = true := by
  revert byte
  apply @Lib.forall_byte fun byte => isPrintable byte = true → isValueByte byte = true ∧ isVisible byte = true
  decide +kernel

theorem isBase64Byte_printable {byte : UInt8} (base64 : isBase64Byte byte = true) :
    isPrintable byte = true ∧ byte ≠ 32 := by
  revert byte
  apply @Lib.forall_byte fun byte => isBase64Byte byte = true → isPrintable byte = true ∧ byte ≠ 32
  decide +kernel

/-- Characters of base64 are a header value that can be written. -/
theorem printable_of_base64 {text : List UInt8} (base64 : text.all isBase64Byte = true) : Printable text := by
  rw [List.all_eq_true] at base64
  constructor
  case visible => exact List.all_eq_true.mpr fun byte found => (isBase64Byte_printable (base64 byte found)).1
  case trimmed =>
    constructor
    · intro first
      exact (isBase64Byte_printable (base64 32 (List.mem_of_mem_head? first))).2 rfl
    · intro last
      exact (isBase64Byte_printable (base64 32 (List.mem_of_mem_getLast? last))).2 rfl

theorem Printable.valid {value : List UInt8} (printable : Printable value) :
    value.all isValueByte = true ∧ value.all isVisible = true := by
  have visible := List.all_eq_true.mp printable.visible
  constructor
  · exact List.all_eq_true.mpr fun byte found => (isPrintable_value (visible byte found)).1
  · exact List.all_eq_true.mpr fun byte found => (isPrintable_value (visible byte found)).2

theorem HeaderValue.legible_of_printable {value : HeaderValue} (printable : Printable value.bytes) : value.Legible :=
  printable.valid.2

theorem HeaderValue.toStr_printable {value : HeaderValue} (printable : Printable value.bytes) :
    value.toStr = some value.bytes := toStr_of_legible (legible_of_printable printable)

theorem HeaderValue.fromBytes_printable {bytes : List UInt8} (printable : Printable bytes) :
    ∃ value, HeaderValue.fromBytes bytes = some value ∧ value.bytes = bytes :=
  ⟨⟨bytes, printable.valid.1⟩, dif_pos printable.valid.1, rfl⟩

theorem HeaderName.fromBytes_token {text : List UInt8} (token : IsToken text) :
    ∃ name, HeaderName.fromBytes text = some name ∧ name.bytes = Lib.lower text :=
  ⟨_, dif_pos token, rfl⟩

/-! ## Header lines that are parsed -/

/-- The lines come to these entries. -/
def Matches (fields : List Lib.Head.Field) (entries : List HeaderLine) : Prop :=
  List.Forall₂ (fun field (entry : HeaderLine) => entry.1.bytes = Lib.lower field.1 ∧ entry.2.bytes = field.2)
    fields entries

theorem HeaderMap.appendHttparse_writable {fields : List Lib.Head.Field}
    (writable : ∀ field ∈ fields, Writable field) (headers : HeaderMap) :
    ∃ entries, Matches fields entries ∧
      headers.appendHttparse fields = .ok ⟨headers.entries ++ entries⟩ := by
  induction fields generalizing headers with
  | nil => exact ⟨[], .nil, by rw [List.append_nil]; rfl⟩
  | cons field fields ih =>
    rw [List.forall_mem_cons] at writable
    obtain ⟨name, named, lowered⟩ := HeaderName.fromBytes_token writable.1.1
    obtain ⟨value, valued, same⟩ := HeaderValue.fromBytes_printable writable.1.2
    obtain ⟨entries, matched, run⟩ := ih writable.2 (headers.append name value)
    refine ⟨(name, value) :: entries, .cons ⟨lowered, same⟩ matched, ?_⟩
    rw [appendHttparse]
    simp only [named, valued]
    rw [run, append, List.append_assoc]
    rfl

end MonoioTungstenite
