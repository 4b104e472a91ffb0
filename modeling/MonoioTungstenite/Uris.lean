import MonoioTungstenite.Agreement
import MonoioTungstenite.ClientRequest

/-! # What is made of a URI

One URI should name one host, for the `Host` header, for the connection and for TLS, which it does unless there is an
`@` in its user, a port without a host, or TLS for an IPv6 literal (`one_host_iff`).  Its path and query should be the
target of the request, which they are unless there is a query without a path (`target_valid_iff`). -/

namespace MonoioTungstenite

open Lib (ascii lower)
open Lib.Head (Field)

/-! ## Authorities -/

/-- An authority by its parts: an optional user, a host that may be an IPv6 literal in brackets, an optional port. -/
structure Authority where
  userinfo : Option (List UInt8)
  host : List UInt8
  port : Option (List UInt8)
  hostOnly : 64 ∉ host
  shape : (∃ literal, host = 91 :: literal ++ [93] ∧ 93 ∉ literal) ∨ (host.head? ≠ some 91 ∧ 58 ∉ host)
  portOnly : ∀ digits ∈ port, 64 ∉ digits ∧ 58 ∉ digits
  visible : ∀ byte ∈ userinfo.getD [] ++ host ++ port.getD [], 33 ≤ byte ∧ byte ≤ 126

namespace Authority

/-- The port with its colon. -/
def portText (authority : Authority) : List UInt8 := authority.port.elim [] fun port => 58 :: port

/-- The host and the port as they are spelled. -/
def hostPort (authority : Authority) : List UInt8 := authority.host ++ authority.portText

def text (authority : Authority) : List UInt8 :=
  authority.userinfo.elim authority.hostPort fun user => user ++ 64 :: authority.hostPort

/-- The host is an IPv6 literal. -/
def Bracketed (authority : Authority) : Prop := authority.host.head? = some 91

/-- The host without brackets. -/
def bare (authority : Authority) : List UInt8 :=
  if authority.host.head? = some 91 then authority.host.tail.dropLast else authority.host

theorem hostPort_unsigned (authority : Authority) : 64 ∉ authority.hostPort := by
  intro found
  cases List.mem_append.mp found with
  | inl inHost => exact authority.hostOnly inHost
  | inr inPort =>
    unfold portText at inPort
    cases given : authority.port with
    | none => simp [given] at inPort
    | some digits =>
      have only := authority.portOnly digits given
      simp [given, only.1] at inPort

theorem text_visible (authority : Authority) : ∀ byte ∈ authority.text, 33 ≤ byte ∧ byte ≤ 126 := by
  have colon : (33 : UInt8) ≤ 58 ∧ (58 : UInt8) ≤ 126 := by decide
  have sign : (33 : UInt8) ≤ 64 ∧ (64 : UInt8) ≤ 126 := by decide
  have parts := authority.visible
  simp only [List.forall_mem_append] at parts
  have hostPort : ∀ byte ∈ authority.hostPort, 33 ≤ byte ∧ byte ≤ 126 := by
    rw [hostPort, List.forall_mem_append]
    refine ⟨parts.1.2, ?_⟩
    unfold portText
    cases given : authority.port with
    | none => simp
    | some digits =>
      rw [given] at parts
      exact List.forall_mem_cons.mpr ⟨colon, parts.2⟩
  unfold text
  cases given : authority.userinfo with
  | none => exact hostPort
  | some user =>
    rw [given] at parts
    exact List.forall_mem_append.mpr ⟨parts.1.1, List.forall_mem_cons.mpr ⟨sign, hostPort⟩⟩

theorem rtakeWhile_text (authority : Authority) : authority.text.rtakeWhile (· ≠ 64) = authority.hostPort := by
  have unsigned := Lib.forall_ne_of_not_mem authority.hostPort_unsigned
  unfold text
  cases authority.userinfo with
  | none => exact List.rtakeWhile_eq_self_iff.mpr unsigned
  | some user =>
    -- seen from the end, the host and the port come first
    have mirrored : ∀ byte ∈ authority.hostPort.reverse, decide (byte ≠ 64) = true :=
      fun byte found => unsigned byte (List.mem_reverse.mp found)
    rw [Option.elim_some, List.rtakeWhile, List.reverse_append, List.reverse_cons, List.append_assoc,
      List.takeWhile_append_of_pos mirrored]
    simp

/-- The host that `http` finds is the host of the authority. -/
theorem hostOf_text (authority : Authority) : Uri.hostOf authority.text = authority.host := by
  rw [Uri.hostOf, rtakeWhile_text, hostPort]
  cases authority.shape with
  | inl bracketed =>
    obtain ⟨literal, host, closed⟩ := bracketed
    have inside := Lib.forall_ne_of_not_mem closed
    rw [host, List.cons_append, List.cons_append, List.append_assoc]
    show 91 :: (literal ++ ([93] ++ authority.portText)).takeWhile (· ≠ 93) ++ [93] = _
    rw [List.takeWhile_append_of_pos inside]
    simp
  | inr plain =>
    have inside := Lib.forall_ne_of_not_mem plain.2
    have stops : authority.portText.takeWhile (· ≠ 58) = [] := by
      unfold portText
      cases authority.port <;> simp
    -- the text does not open with a bracket, also when there is only a port
    have open' : ∀ rest, authority.host ++ authority.portText ≠ 91 :: rest := by
      intro rest same
      cases host : authority.host with
      | nil =>
        rw [host, List.nil_append, portText] at same
        cases given : authority.port <;> simp [given] at same
      | cons byte others =>
        rw [host, List.cons_append] at same
        exact plain.1 (by rw [host]; exact congrArg some (List.cons.inj same).1)
    split
    next rest same => exact absurd same (open' rest)
    next => rw [List.takeWhile_append_of_pos inside, stops, List.append_nil]

end Authority

namespace Client

theorem hostHeader_unsigned {text : List UInt8} (unsigned : 64 ∉ text) : hostHeader text = text := by
  have all : text.dropWhile (· ≠ 64) = [] := by
    rw [List.dropWhile_eq_nil_iff]
    exact Lib.forall_ne_of_not_mem unsigned
  rw [hostHeader, all]

theorem hostHeader_signed {before : List UInt8} (unsigned : 64 ∉ before) (behind : List UInt8) :
    hostHeader (before ++ 64 :: behind) = behind := by
  have front := Lib.forall_ne_of_not_mem unsigned
  rw [hostHeader, List.dropWhile_append_of_pos front]
  rfl

theorem hostHeader_suffix (text : List UInt8) : hostHeader text <:+ text := by
  have behind : text.dropWhile (· ≠ 64) <:+ text := List.dropWhile_suffix _
  unfold hostHeader
  split
  next => exact List.suffix_refl text
  next sign host same =>
    rw [same] at behind
    exact (List.suffix_cons sign host).trans behind

theorem printable_of_visible {text : List UInt8} (visible : ∀ byte ∈ text, 33 ≤ byte ∧ byte ≤ 126) :
    Printable text := by
  have inside : ∀ byte : UInt8, 33 ≤ byte ∧ byte ≤ 126 → isPrintable byte = true := by
    apply Lib.forall_byte
    decide +kernel
  have blank : ¬ ((33 : UInt8) ≤ 32 ∧ (32 : UInt8) ≤ 126) := by decide
  constructor
  · exact List.all_eq_true.mpr fun byte found => inside byte (visible byte found)
  · exact ⟨fun first => blank (visible 32 (List.mem_of_mem_head? first)),
      fun last => blank (visible 32 (List.mem_of_mem_getLast? last))⟩

theorem hostHeader_printable {text : List UInt8} (visible : ∀ byte ∈ text, 33 ≤ byte ∧ byte ≤ 126) :
    Printable (hostHeader text) :=
  printable_of_visible fun byte found => visible byte ((hostHeader_suffix text).subset found)

theorem clientHeaders_writable {crates : Crates} (encodes : Encodes crates.base64) (random : List UInt8)
    {host : List UInt8} (printable : Printable host) :
    ∀ field ∈ clientHeaders crates random host, Writable field := by
  have key : Printable (generateKey crates random) := printable_of_base64 (encodes _)
  simp only [clientHeaders, List.forall_mem_cons]
  have names : IsToken (ascii "Host") ∧ IsToken (ascii "Connection") ∧ IsToken (ascii "Upgrade") ∧
      IsToken (ascii "Sec-WebSocket-Version") ∧ IsToken (ascii "Sec-WebSocket-Key") := by decide
  have thirteen : Printable (ascii "13") := by decide
  exact ⟨⟨names.1, printable⟩, ⟨names.2.1, printable_upgrade⟩, ⟨names.2.2.1, printable_websocket⟩,
    ⟨names.2.2.2.1, thirteen⟩, ⟨names.2.2.2.2, key⟩, fun field found => by cases found⟩

/-- The request for a URI has the lines for its host, in their order. -/
theorem intoClientRequest_ok {crates : Crates} (encodes : Encodes crates.base64) (random : List UInt8) {uri : Uri}
    {text : List UInt8} (given : uri.authority = some text) (visible : ∀ byte ∈ text, 33 ≤ byte ∧ byte ≤ 126)
    (nonempty : hostHeader text ≠ []) :
    ∃ entries, Matches (clientHeaders crates random (hostHeader text)) entries ∧
      intoClientRequest crates random uri = .ok ⟨ascii "GET", uri, .HTTP_11, ⟨entries⟩⟩ := by
  have writable := clientHeaders_writable encodes random (hostHeader_printable visible)
  obtain ⟨entries, matched, run⟩ := HeaderMap.appendHttparse_writable writable HeaderMap.new
  refine ⟨entries, matched, ?_⟩
  rw [intoClientRequest, given]
  simp only [List.isEmpty_iff, nonempty, if_false, run]
  rfl

theorem intoClientRequest_empty {crates : Crates} (random : List UInt8) {uri : Uri} {text : List UInt8}
    (given : uri.authority = some text) (empty : hostHeader text = []) :
    intoClientRequest crates random uri = .error (.Url .EmptyHostName) := by
  rw [intoClientRequest, given]
  simp [empty]

end Client

namespace Authority

theorem hostPort_eq_nil {authority : Authority} :
    authority.hostPort = [] ↔ authority.host = [] ∧ authority.port = none := by
  rw [hostPort, List.append_eq_nil_iff, portText]
  cases authority.port <;> simp

theorem bare_eq_host_iff {authority : Authority} : authority.bare = authority.host ↔ ¬ authority.Bracketed := by
  unfold bare Bracketed
  split
  next bracketed =>
    constructor
    · intro same
      have some : authority.host ≠ [] := fun none => by simp [none] at bracketed
      have shorter := congrArg List.length same
      rw [List.length_dropLast, List.length_tail] at shorter
      have positive := List.length_pos_of_ne_nil some
      omega
    · exact fun plain => absurd bracketed plain
  next plain => exact ⟨fun _ => plain, fun _ => rfl⟩

/-- What is left of the user when it is cut off at the first `@`. -/
theorem hostHeader_text (authority : Authority) :
    Client.hostHeader authority.text = authority.hostPort ∧ (∀ user ∈ authority.userinfo, 64 ∉ user) ∨
      ∃ user ∈ authority.userinfo, 64 ∈ user ∧
        ∃ rest, Client.hostHeader authority.text = rest ++ 64 :: authority.hostPort := by
  unfold text
  cases given : authority.userinfo with
  | none => exact .inl ⟨Client.hostHeader_unsigned authority.hostPort_unsigned, fun _ found => by cases found⟩
  | some user =>
    by_cases signed : 64 ∈ user
    · obtain ⟨before, rest, rfl, unsigned⟩ := List.eq_append_cons_of_mem signed
      refine .inr ⟨_, rfl, signed, rest, ?_⟩
      rw [Option.elim_some, List.append_assoc, List.cons_append, Client.hostHeader_signed unsigned]
    · refine .inl ⟨Client.hostHeader_signed signed _, ?_⟩
      rintro _ ⟨⟩
      exact signed

theorem hostHeader_eq_iff (authority : Authority) :
    Client.hostHeader authority.text = authority.hostPort ↔ ∀ user ∈ authority.userinfo, 64 ∉ user := by
  cases authority.hostHeader_text with
  | inl whole => exact iff_of_true whole.1 whole.2
  | inr signed =>
    obtain ⟨user, listed, sign, rest, text⟩ := signed
    apply iff_of_false
    · intro same
      have length := congrArg List.length (text.symm.trans same)
      rw [List.length_append, List.length_cons] at length
      omega
    · exact fun unsigned => unsigned user listed sign

/-- There is nothing left of an authority only if it has neither a host nor a port. -/
theorem hostHeader_eq_nil {authority : Authority} (nothing : Client.hostHeader authority.text = []) :
    Client.hostHeader authority.text = authority.hostPort := by
  cases authority.hostHeader_text with
  | inl whole => exact whole.1
  | inr signed =>
    obtain ⟨_, _, _, rest, text⟩ := signed
    exact absurd (text.symm.trans nothing) (by simp)

end Authority

namespace Client

/-! ## One host -/

/-- The host of the URI is named in the request as it is spelled, with its port and without its user, and the
connection and TLS are for this host without brackets; a URI without a host is refused. -/
structure NamesOneHost (crates : Crates) (random : List UInt8) (uri : Uri) (authority : Authority) : Prop where
  empty : authority.host = [] → intoClientRequest crates random uri = .error (.Url .EmptyHostName)
  named : authority.host ≠ [] → ∃ request, intoClientRequest crates random uri = .ok request ∧ request.uri = uri ∧
    (request.headers.get (ascii "Host")).map HeaderValue.bytes = some authority.hostPort
  connected : ∀ request, request.uri = uri → ∀ mode, uriMode uri = .ok mode →
    ∃ port, perpareTcpStream request = .ok (authority.bare, port)
  secured : ∀ request, request.uri = uri → ∀ preferred connector name,
    clientTlsWithConfig preferred connector request = .ok (some name) → name = authority.bare

theorem host_of_authority {uri : Uri} {authority : Authority} (given : uri.authority = some authority.text) :
    uri.host = some authority.host := by
  rw [Uri.host, given, Option.map_some, authority.hostOf_text]

theorem perpareTcpStream_host {request : Request} {authority : Authority}
    (given : request.uri.authority = some authority.text) {mode : Mode} (known : uriMode request.uri = .ok mode) :
    ∃ port, perpareTcpStream request = .ok (authority.bare, port) := by
  have bare : (if authority.host.head? = some 91 ∧ authority.host.getLast? = some 93 then authority.host.tail.dropLast
      else authority.host) = authority.bare := by
    unfold Authority.bare
    cases authority.shape with
    | inl bracketed =>
      obtain ⟨literal, host, _⟩ := bracketed
      rw [host, if_pos ⟨rfl, List.getLast?_concat⟩]
      exact (if_pos rfl).symm
    | inr plain => rw [if_neg fun both => plain.1 both.1, if_neg plain.1]
  rw [perpareTcpStream, known, host_of_authority given]
  exact ⟨_, congrArg Except.ok (Prod.ext bare rfl)⟩

/-- TLS is started for the host as it is spelled, and for `wss` only. -/
theorem clientTlsWithConfig_name {request : Request} {authority : Authority}
    (given : request.uri.authority = some authority.text) {preferred : Connector} {connector : Option Connector}
    {name : List UInt8} (secures : clientTlsWithConfig preferred connector request = .ok (some name)) :
    name = authority.host ∧ request.uri.scheme = some (ascii "wss") := by
  rw [clientTlsWithConfig, host_of_authority given] at secures
  simp only [bind, Except.bind] at secures
  unfold uriMode at secures
  split at secures
  next => cases secures
  next mode known =>
    -- without TLS no name is passed on
    split at known
    next => cases known; cases secures
    next =>
      split at known
      next secure =>
        cases known
        unfold wrapStream at secures
        split at secures
        next different => cases different
        next => cases secures
        next => cases secures; exact ⟨rfl, secure⟩
        next => cases secures; exact ⟨rfl, secure⟩
      next => cases known

theorem clientTlsWithConfig_rustls {request : Request} {authority : Authority}
    (given : request.uri.authority = some authority.text) (secure : request.uri.scheme = some (ascii "wss")) :
    clientTlsWithConfig .Rustls none request = .ok (some authority.host) := by
  have known : uriMode request.uri = .ok .Tls := by
    rw [uriMode, secure, if_neg (by decide), if_pos rfl]
  rw [clientTlsWithConfig, host_of_authority given]
  simp only [bind, Except.bind, known]
  rfl

theorem host_of_clientHeaders {crates : Crates} {random host : List UInt8} {entries : List HeaderLine}
    (matched : Matches (clientHeaders crates random host) entries) :
    ((HeaderMap.mk entries).get (ascii "Host")).map HeaderValue.bytes = some host :=
  (matched.get (ascii "Host")).trans rfl

theorem hostHeader_ne_nil {crates : Crates} {random : List UInt8} {uri : Uri} {text : List UInt8}
    (given : uri.authority = some text) {request : Request} (built : intoClientRequest crates random uri = .ok request) :
    hostHeader text ≠ [] := by
  intro empty
  cases built.symm.trans (intoClientRequest_empty random given empty)

section Built

variable {crates : Crates} (encodes : Encodes crates.base64) (random : List UInt8) {uri : Uri} {text : List UInt8}
  (given : uri.authority = some text) (visible : ∀ byte ∈ text, 33 ≤ byte ∧ byte ≤ 126)
include encodes given visible

theorem intoClientRequest_refused_iff :
    intoClientRequest crates random uri = .error (.Url .EmptyHostName) ↔ hostHeader text = [] := by
  constructor
  · intro refused
    by_contra nonempty
    obtain ⟨entries, _, built⟩ := intoClientRequest_ok encodes random given visible nonempty
    cases refused.symm.trans built
  · exact intoClientRequest_empty random given

theorem intoClientRequest_host_iff (host : List UInt8) :
    (∃ request, intoClientRequest crates random uri = .ok request ∧ request.uri = uri ∧
      (request.headers.get (ascii "Host")).map HeaderValue.bytes = some host) ↔
      hostHeader text ≠ [] ∧ hostHeader text = host := by
  constructor
  · rintro ⟨request, built, _, named⟩
    have nonempty := hostHeader_ne_nil given built
    obtain ⟨entries, matched, built'⟩ := intoClientRequest_ok encodes random given visible nonempty
    cases built.symm.trans built'
    exact ⟨nonempty, Option.some.inj ((host_of_clientHeaders matched).symm.trans named)⟩
  · rintro ⟨nonempty, rfl⟩
    obtain ⟨entries, matched, built⟩ := intoClientRequest_ok encodes random given visible nonempty
    exact ⟨_, built, rfl, host_of_clientHeaders matched⟩

end Built

theorem clientTlsWithConfig_bare_iff {uri : Uri} {authority : Authority} (given : uri.authority = some authority.text) :
    (∀ request, request.uri = uri → ∀ preferred connector name,
      clientTlsWithConfig preferred connector request = .ok (some name) → name = authority.bare) ↔
      (uri.scheme = some (ascii "wss") → ¬ authority.Bracketed) := by
  constructor
  · intro secured secure
    have name := secured ⟨[], uri, .HTTP_11, .new⟩ rfl _ _ _ (clientTlsWithConfig_rustls given secure)
    exact Authority.bare_eq_host_iff.mp name.symm
  · rintro spelled request rfl preferred connector name secures
    obtain ⟨same, secure⟩ := clientTlsWithConfig_name given secures
    rw [same, Authority.bare_eq_host_iff.mpr (spelled secure)]

/-- One URI names one host exactly if there is no `@` in its user, no port without a host, and no TLS for an IPv6
literal. -/
theorem one_host_iff {crates : Crates} (encodes : Encodes crates.base64) (random : List UInt8) {uri : Uri}
    {authority : Authority} (given : uri.authority = some authority.text) :
    NamesOneHost crates random uri authority ↔
      (∀ user ∈ authority.userinfo, 64 ∉ user) ∧ (authority.host = [] → authority.port = none) ∧
        (uri.scheme = some (ascii "wss") → ¬ authority.Bracketed) := by
  have visible := authority.text_visible
  have refused := intoClientRequest_refused_iff encodes random given visible
  have named := intoClientRequest_host_iff encodes random given visible authority.hostPort
  rw [← Authority.hostHeader_eq_iff, ← clientTlsWithConfig_bare_iff given]
  constructor
  · intro one
    have empty : authority.host = [] → hostHeader authority.text = [] := fun hostless => refused.mp (one.empty hostless)
    have header : hostHeader authority.text = authority.hostPort := by
      by_cases hostless : authority.host = []
      · exact Authority.hostHeader_eq_nil (empty hostless)
      · exact (named.mp (one.named hostless)).2
    refine ⟨header, fun hostless => ?_, one.secured⟩
    exact (Authority.hostPort_eq_nil.mp (header.symm.trans (empty hostless))).2
  · rintro ⟨header, portless, secured⟩
    constructor
    case empty =>
      intro hostless
      rw [refused, header]
      exact Authority.hostPort_eq_nil.mpr ⟨hostless, portless hostless⟩
    case named =>
      intro hosted
      refine named.mpr ⟨?_, header⟩
      rw [header]
      exact fun empty => hosted (Authority.hostPort_eq_nil.mp empty).1
    case connected =>
      rintro request rfl mode known
      exact perpareTcpStream_host given known
    case secured => exact secured

/-- The authority `user:pass@localhost:9001`. -/
def signedAuthority : Authority where
  userinfo := some (ascii "user:pass")
  host := ascii "localhost"
  port := some (ascii "9001")
  hostOnly := by decide +kernel
  shape := .inr (by decide +kernel)
  portOnly := by decide +kernel
  visible := by decide +kernel

theorem one_host_iff_signed :
    NamesOneHost (referenceCrates fun _ => sampleHash) (List.replicate 16 0)
        ⟨some (ascii "wss"), some signedAuthority.text, some ⟨[], by decide, by decide⟩⟩ signedAuthority ↔
      (∀ user ∈ signedAuthority.userinfo, 64 ∉ user) ∧
        (signedAuthority.host = [] → signedAuthority.port = none) ∧
        (some (ascii "wss") = some (ascii "wss") → ¬ signedAuthority.Bracketed) :=
  one_host_iff (referenceCrates_requestsDocumented _).base64 (List.replicate 16 0) rfl

/-- The authority `user:p@ss@localhost`. -/
def leakingAuthority : Authority where
  userinfo := some (ascii "user:p@ss")
  host := ascii "localhost"
  port := none
  hostOnly := by decide +kernel
  shape := .inr (by decide +kernel)
  portOnly := by decide +kernel
  visible := by decide +kernel

/-- The end of the password is sent as a part of the host. -/
theorem not_namesOneHost_leaking :
    leakingAuthority.text = ascii "user:p@ss@localhost" ∧
      ¬ NamesOneHost (referenceCrates fun _ => sampleHash) (List.replicate 16 0)
        ⟨some (ascii "wss"), some leakingAuthority.text, some ⟨[], by decide, by decide⟩⟩ leakingAuthority := by
  refine ⟨by decide, fun one => ?_⟩
  obtain ⟨request, built, _, host⟩ := one.named (by decide)
  have sent : (match intoClientRequest (referenceCrates fun _ => sampleHash) (List.replicate 16 0)
        ⟨some (ascii "wss"), some leakingAuthority.text, some ⟨[], by decide, by decide⟩⟩ with
      | .ok request => (request.headers.get (ascii "Host")).map HeaderValue.bytes
      | .error _ => none) = some (ascii "ss@localhost") := by decide +kernel
  rw [built] at sent
  exact absurd (sent.symm.trans host) (by decide)

/-! ## Targets -/

/-- The target of a request as it was sent: the second word of its first line. -/
def targetSent (sent : List UInt8) : List UInt8 :=
  match Lib.Head.cutLine sent with
  | none => []
  | some (line, _) => (line.splitOn 32).getD 1 []

theorem targetSent_write (path : PathAndQuery) (version : Version) (fields : List Field) :
    targetSent (Lib.Head.write (requestLine path version) fields) = path.asStr := by
  rw [targetSent, Lib.Head.write, List.append_assoc, Lib.Head.cutLine_append (requestLine_whole path version)]
  simp only [requestLine_words]
  rfl

/-- The path of a target. -/
def pathIn (target : List UInt8) : List UInt8 := target.takeWhile (· ≠ 63)

/-- The query of a target. -/
def queryIn (target : List UInt8) : Option (List UInt8) :=
  match target.dropWhile (· ≠ 63) with
  | [] => none
  | _ :: query => some query

/-- A target that begins with a slash has the path and the query that it was made of. -/
theorem asStr_parts {path : PathAndQuery} (absolute : path.Absolute) :
    pathIn path.asStr = path.path ∧ queryIn path.asStr = path.query := by
  unfold PathAndQuery.Absolute at absolute
  unfold PathAndQuery.asStr at absolute ⊢
  unfold PathAndQuery.path PathAndQuery.query
  cases data : path.data with
  | nil => exact ⟨by decide, by decide⟩
  | cons first rest =>
    rw [data] at absolute
    have slash : first = 47 := Option.some.inj absolute
    constructor
    · simp [pathIn, slash]
    · rfl

/-- The request carries the path and the query to the server. -/
def CarriesTarget (crates : Crates) (request : Request) (path : PathAndQuery) : Prop :=
  ∃ sent, generateRequest crates request = .ok sent ∧
    (targetSent sent).head? = some 47 ∧ pathIn (targetSent sent) = path.path ∧
    queryIn (targetSent sent) = path.query ∧
    ∃ received target, Server.decodeRequest crates sent = .ok (.Some (sent.length, received)) ∧
      received.uri.pathAndQuery = some target ∧ target.path = path.path ∧ target.query = path.query

theorem clientHeaders_present {crates : Crates} (encodes : Encodes crates.base64) {random host : List UInt8}
    (printable : Printable host) {entries : List HeaderLine}
    (matched : Matches (clientHeaders crates random host) entries) :
    (∀ name ∈ WEBSOCKET_HEADERS, Present ⟨entries⟩ name) ∧ ∀ line ∈ entries, Printable line.2.bytes := by
  have values := matched.printable fun field listed => (clientHeaders_writable encodes random printable field listed).2
  have named : ∀ name ∈ WEBSOCKET_HEADERS, (fieldNamed (clientHeaders crates random host) name).isSome = true := by
    simp only [WEBSOCKET_HEADERS, KEY_HEADERNAME, List.forall_mem_cons]
    exact ⟨rfl, rfl, rfl, rfl, rfl, fun name listed => by cases listed⟩
  refine ⟨fun name listed => ?_, values⟩
  have found := named name listed
  rw [← matched.get name, Option.isSome_map] at found
  obtain ⟨value, got⟩ := Option.isSome_iff_exists.mp found
  obtain ⟨line, inMap, _, rfl⟩ := HeaderMap.get_mem got
  exact ⟨_, got, values line inMap⟩

/-- An absolute text is not that of a query alone. -/
theorem data_of_absolute {path : PathAndQuery} (absolute : path.Absolute) : path.data.head? ≠ some 63 := by
  unfold PathAndQuery.Absolute PathAndQuery.asStr at absolute
  intro asks
  cases data : path.data with
  | nil => simp [data] at asks
  | cons first rest =>
    rw [data] at absolute asks
    exact absurd (Option.some.inj (absolute.symm.trans asks)) (by decide)

theorem absolute_of_shape {path : PathAndQuery}
    (shape : path.data = [] ∨ path.data.head? = some 47 ∨ path.data.head? = some 63)
    (answered : path.data.head? ≠ some 63) : path.Absolute := by
  unfold PathAndQuery.Absolute PathAndQuery.asStr
  rcases shape with none | slash | asks
  · rw [none]
    decide
  · cases data : path.data with
    | nil => simp [data] at slash
    | cons first rest => rwa [data] at slash
  · exact absurd asks answered

/-- For a URI of which a request is made, the request carries its path and query exactly if there is no query without
a path. -/
theorem target_valid_iff {crates : Crates} (documented : crates.RequestsDocumented) {random : List UInt8} {uri : Uri}
    {authority : List UInt8} (given : uri.authority = some authority)
    (visible : ∀ byte ∈ authority, 33 ≤ byte ∧ byte ≤ 126) {path : PathAndQuery} (target : uri.pathAndQuery = some path)
    (shape : path.data = [] ∨ path.data.head? = some 47 ∨ path.data.head? = some 63) {request : Request}
    (built : intoClientRequest crates random uri = .ok request) :
    CarriesTarget crates request path ↔ path.data.head? ≠ some 63 := by
  have nonempty := hostHeader_ne_nil given built
  obtain ⟨entries, matched, same⟩ := intoClientRequest_ok documented.base64 random given visible nonempty
  cases built.symm.trans same
  obtain ⟨present, printable⟩ := clientHeaders_present documented.base64 (hostHeader_printable visible) matched
  have generated := @generateRequest_ok _ documented.iter ⟨ascii "GET", uri, .HTTP_11, ⟨entries⟩⟩ _ target present printable
  constructor
  · rintro ⟨sent, generated', slash, _⟩
    cases generated.symm.trans generated'
    rw [targetSent_write] at slash
    exact data_of_absolute slash
  · intro answered
    have absolute := absolute_of_shape shape answered
    obtain ⟨writable, length, _⟩ := requestFields_ok documented.iter present printable
    have few : (requestFields crates ⟨entries⟩).length ≤ MAX_HEADERS := by
      apply Nat.le_trans length
      rw [← matched.length_eq]
      exact (by decide : 5 ≤ MAX_HEADERS)
    -- what the server has parsed begins with a slash as well, so that its parts are those of the text
    obtain ⟨received, decoded, _, _, carried, _⟩ := Server.decodeRequest_ok documented absolute writable few
    obtain ⟨arrived, found, text⟩ := Option.map_eq_some_iff.mp carried
    have parts := asStr_parts absolute
    have parts' := @asStr_parts arrived (by rw [PathAndQuery.Absolute, text]; exact absolute)
    rw [text] at parts'
    refine ⟨_, generated, ?_⟩
    rw [targetSent_write]
    exact ⟨absolute, parts.1, parts.2, received, arrived, decoded, found, parts'.1.symm.trans parts.1,
      parts'.2.symm.trans parts.2⟩

theorem target_valid_iff_signed :
    ∃ request, intoClientRequest (referenceCrates fun _ => sampleHash) (List.replicate 16 0)
          ⟨some (ascii "wss"), some signedAuthority.text, some ⟨ascii "/chat?room=1", by decide, by decide⟩⟩ =
        .ok request ∧
      (CarriesTarget (referenceCrates fun _ => sampleHash) request ⟨ascii "/chat?room=1", by decide, by decide⟩ ↔
        (ascii "/chat?room=1").head? ≠ some 63) := by
  have documented := referenceCrates_requestsDocumented fun _ => sampleHash
  obtain ⟨entries, _, built⟩ := @intoClientRequest_ok _ documented.base64 (List.replicate 16 0)
    ⟨some (ascii "wss"), some signedAuthority.text, some ⟨ascii "/chat?room=1", by decide, by decide⟩⟩
    _ rfl signedAuthority.text_visible (by decide)
  exact ⟨_, built, target_valid_iff documented rfl signedAuthority.text_visible rfl (.inr (.inl (by decide))) built⟩

/-- The request for `ws://localhost?token=x`. -/
def queryOnly : Request where
  method := ascii "GET"
  uri := ⟨some (ascii "ws"), some (ascii "localhost"), some ⟨ascii "?token=x", by decide, by decide⟩⟩
  version := .HTTP_11
  headers := headerMapOf
    [("Host", "localhost"), ("Connection", "Upgrade"), ("Upgrade", "websocket"), ("Sec-WebSocket-Version", "13"),
      ("Sec-WebSocket-Key", "AAAAAAAAAAAAAAAAAAAAAA==")]

/-- Its target begins with the query. -/
theorem not_carriesTarget_queryOnly :
    intoClientRequest (referenceCrates fun _ => sampleHash) (List.replicate 16 0) queryOnly.uri = .ok queryOnly ∧
      ¬ CarriesTarget (referenceCrates fun _ => sampleHash) queryOnly ⟨ascii "?token=x", by decide, by decide⟩ := by
  refine ⟨by decide +kernel, ?_⟩
  rintro ⟨sent, generated, slash, _⟩
  have asks : (match generateRequest (referenceCrates fun _ => sampleHash) queryOnly with
      | .ok sent => (targetSent sent).head?
      | .error _ => none) = some 63 := by decide +kernel
  rw [generated] at asks
  exact absurd (slash.symm.trans asks) (by decide)

end Client

end MonoioTungstenite
