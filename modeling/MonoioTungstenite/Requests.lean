import Mathlib.Data.List.Count
import MonoioTungstenite.Agreement
import MonoioTungstenite.ClientRequest
import MonoioTungstenite.Lib.Elements

/-! # Requests as they are sent

What stands on the wire for the headers of a request.  Of a necessary header only the first value is written, and the
others are dropped with it before the check for duplicates looks at the map (`duplicates_refused_iff`). -/

namespace MonoioTungstenite

open Lib (ascii lower)
open Lib.Head (Field elements)

/-! ## The lines of a request -/

theorem plain_line {name value : List UInt8} (token : IsToken name) (visible : value.all isVisible = true) :
    Lib.Head.Plain (name, value) := by
  have named := List.all_eq_true.mp token.2
  refine ⟨⟨fun found => ?_, fun found => ?_⟩, fun found => ?_⟩
  · exact absurd (named 13 found) (by decide)
  · exact absurd (named 58 found) (by decide)
  · exact absurd (List.all_eq_true.mp visible 13 found) (by decide)

namespace Client

/-- The lines of a request as it was sent, with their names in lower case. -/
def sentLines (sent : List UInt8) : List Field :=
  (Lib.Head.fieldsIn sent).map fun field => (lower field.1, field.2)

theorem lower_writtenName (name : HeaderName) : lower (writtenName name) = name.bytes := by
  unfold writtenName
  split
  next protocol => rw [protocol]; decide
  next =>
    split
    next origin => rw [origin]; decide
    next => exact name.lowerCase

theorem requestFields_plain {crates : Crates} (iterates : Iterates crates.iter) {request : Request}
    {path : PathAndQuery} (sendable : Sendable request path) :
    ∀ field ∈ requestFields crates request.headers, Lib.Head.Plain field := by
  intro field found
  cases List.mem_append.mp found with
  | inl first =>
    obtain ⟨name, listed, same⟩ := List.mem_filterMap.mp first
    obtain ⟨value, got, rfl⟩ := Option.map_eq_some_iff.mp same
    obtain ⟨other, got', legible⟩ := sendable.necessary name listed
    cases got.symm.trans got'
    exact plain_line (websocketHeaders_tokens name listed) legible
  | inr rest =>
    obtain ⟨line, listed, rfl⟩ := List.mem_map.mp rest
    obtain ⟨inMap, other⟩ := List.mem_filter.mp ((iterates.perm _).mem_iff.mp listed)
    exact plain_line (writtenName_token line.1) (sendable.others line inMap (by simpa using other))

/-- What a request has on the wire: the first values of the necessary headers, and all the others. -/
theorem sentLines_write {crates : Crates} (iterates : Iterates crates.iter) {request : Request} {path : PathAndQuery}
    (sendable : Sendable request path) :
    sentLines (Lib.Head.write (requestLine path request.version) (requestFields crates request.headers)) =
      (firstValues WEBSOCKET_HEADERS request.headers).map (fun field => (lower field.1, field.2)) ++
        linesOf (crates.iter (without WEBSOCKET_HEADERS request.headers)) := by
  rw [sentLines, Lib.Head.fieldsIn_write (requestLine_whole _ _) (requestFields_plain iterates sendable), requestFields,
    List.map_append, restFields, List.map_map, linesOf]
  simp only [Function.comp_def, lower_writtenName]

/-! ## Duplicated headers -/

/-- A necessary header is there more than once. -/
def Duplicated (headers : HeaderMap) : Prop := ∃ name ∈ WEBSOCKET_HEADERS, 1 < (headers.named name).length

/-- All necessary headers are there, and all values can be read. -/
def Complete (headers : HeaderMap) : Prop :=
  (∀ name ∈ WEBSOCKET_HEADERS, (headers.get name).isSome = true) ∧ ∀ line ∈ headers.entries, line.2.Legible

/-- A complete request with a duplicated header is refused with an error that names such a header. -/
def DuplicateRefused (crates : Crates) (request : Request) : Prop :=
  Complete request.headers → Duplicated request.headers →
    ∃ name : HeaderName, generateRequest crates request = .error (.Protocol (.InvalidHeader name)) ∧
      1 < (request.headers.named name.bytes).length

/-- Each line of the map stands in the request as often as in the map. -/
def NothingDropped (crates : Crates) (request : Request) : Prop :=
  ∀ sent, generateRequest crates request = .ok sent →
    ∀ field ∈ linesOf request.headers.entries,
      (sentLines sent).count field = (linesOf request.headers.entries).count field

/-- The lines of the map, where each of these names is there once: their values and the lines that are left. -/
theorem firstValues_perm {names : List (List UInt8)} {headers : HeaderMap}
    (distinct : names.Pairwise fun left right => lower left ≠ lower right)
    (single : ∀ name ∈ names, (headers.named name).length = 1) :
    ((firstValues names headers).map (fun field => (lower field.1, field.2)) ++
      linesOf (without names headers).entries).Perm (linesOf headers.entries) := by
  induction names generalizing headers with
  | nil => simp [firstValues, without]
  | cons name names ih =>
    rw [List.pairwise_cons] at distinct
    rw [List.forall_mem_cons] at single
    obtain ⟨line, only⟩ := List.length_eq_one_iff.mp single.1
    have kept := get_remove headers distinct.1
    have behind := @ih (headers.remove name).2 distinct.2 fun other listed => by
      rw [HeaderMap.named_remove (distinct.1 other listed).symm]
      exact single.2 other listed
    rw [firstValues_congr kept, without_cons] at behind
    -- the line is taken out of the map, and stands in front of the others
    have split : (line :: (headers.remove name).2.entries).Perm headers.entries := by
      have parts := List.filter_append_perm (fun other : HeaderLine => decide (other.1.bytes = lower name)) headers.entries
      rw [show headers.entries.filter (fun other => decide (other.1.bytes = lower name)) = [line] from only] at parts
      simpa [HeaderMap.remove] using parts
    have named : line.1.bytes = lower name :=
      (HeaderMap.mem_named.mp (only ▸ List.mem_singleton_self line : line ∈ headers.named name)).2
    have first : firstValues (name :: names) headers = (name, line.2.bytes) :: firstValues names headers := by
      simp [firstValues, HeaderMap.get, only]
    have lines : (linesOf (line :: (headers.remove name).2.entries)).Perm (linesOf headers.entries) := split.map _
    rw [first, List.map_cons, List.cons_append]
    show ((lower name, line.2.bytes) :: _).Perm _
    rw [← named]
    exact (behind.cons _).trans lines

theorem firstValues_names (names : List (List UInt8)) (headers : HeaderMap) :
    ((firstValues names headers).map fun field => lower field.1).Sublist (names.map lower) := by
  induction names with
  | nil => exact .slnil
  | cons name names ih =>
    cases found : headers.get name with
    | none =>
      have first : firstValues (name :: names) headers = firstValues names headers := by simp [firstValues, found]
      rw [first]
      exact ih.cons (lower name)
    | some value =>
      have first : firstValues (name :: names) headers = (name, value.bytes) :: firstValues names headers := by
        simp [firstValues, found]
      rw [first]
      exact ih.cons_cons (lower name)

theorem countP_sentLines {crates : Crates} (iterates : Iterates crates.iter) {request : Request} {path : PathAndQuery}
    (sendable : Sendable request path) {name : List UInt8} (necessary : name ∈ WEBSOCKET_HEADERS) :
    (sentLines (Lib.Head.write (requestLine path request.version) (requestFields crates request.headers))).countP
      (fun field => field.1 = lower name) ≤ 1 := by
  -- once among the first values, and nowhere behind them
  have distinct : (WEBSOCKET_HEADERS.map lower).Nodup := by decide
  have once := List.nodup_iff_count.mp (distinct.sublist (firstValues_names _ request.headers)) (lower name)
  have rest : (linesOf (crates.iter (without WEBSOCKET_HEADERS request.headers))).countP
      (fun field => field.1 = lower name) = 0 := by
    rw [List.countP_eq_zero]
    intro field found
    obtain ⟨line, listed, rfl⟩ := List.mem_map.mp found
    have other := (List.mem_filter.mp ((iterates.perm _).mem_iff.mp listed)).2
    intro same
    simp at other same
    exact other name necessary same.symm
  rw [sentLines_write iterates sendable, List.countP_append, rest, Nat.add_zero, List.countP_map]
  rw [List.count, List.countP_map] at once
  exact (List.countP_congr fun field _ => by simp).trans_le once

theorem sendable_of_complete {request : Request} {path : PathAndQuery} (target : request.uri.pathAndQuery = some path)
    (complete : Complete request.headers) : Sendable request path := by
  refine ⟨target, fun name listed => ?_, fun line listed _ => complete.2 line listed⟩
  obtain ⟨value, found⟩ := Option.isSome_iff_exists.mp (complete.1 name listed)
  obtain ⟨line, inMap, _, rfl⟩ := HeaderMap.get_mem found
  exact ⟨_, found, complete.2 line inMap⟩

/-- Without duplicates, a request that is written has all lines of the map in it, each as often as it is there. -/
theorem sentLines_perm {crates : Crates} (iterates : Iterates crates.iter) {request : Request} {path : PathAndQuery}
    (sendable : Sendable request path) (unique : ¬ Duplicated request.headers) :
    (sentLines (Lib.Head.write (requestLine path request.version) (requestFields crates request.headers))).Perm
      (linesOf request.headers.entries) := by
  have single : ∀ name ∈ WEBSOCKET_HEADERS, (request.headers.named name).length = 1 := by
    intro name listed
    obtain ⟨value, found, _⟩ := sendable.necessary name listed
    obtain ⟨line, inMap, same, _⟩ := HeaderMap.get_mem found
    have some := List.length_pos_of_mem (HeaderMap.mem_named.mpr ⟨inMap, same⟩)
    have few : ¬ 1 < (request.headers.named name).length := fun many => unique ⟨name, listed, many⟩
    omega
  rw [sentLines_write iterates sendable]
  have others : (linesOf (crates.iter (without WEBSOCKET_HEADERS request.headers))).Perm
      (linesOf (without WEBSOCKET_HEADERS request.headers).entries) := (iterates.perm _).map _
  exact (others.append_left _).trans (firstValues_perm websocketHeaders_distinct single)

/-- With duplicates, a request that is written does not have all lines of the map in it. -/
theorem dropped_of_duplicated {crates : Crates} (iterates : Iterates crates.iter) {request : Request}
    {path : PathAndQuery} (sendable : Sendable request path) (duplicated : Duplicated request.headers) :
    ¬ NothingDropped crates request := by
  intro kept
  obtain ⟨name, necessary, many⟩ := duplicated
  -- with all lines of the map in the request, the name would stand there more than once
  have counts := kept _ ((generateRequest_ok_iff iterates).mpr ⟨path, sendable, rfl⟩)
  have contained := List.subperm_ext_iff.mpr fun field found => (counts field found).ge
  have fewer := contained.countP_le (fun field => field.1 = lower name)
  have once := countP_sentLines iterates sendable necessary
  have lines : (linesOf request.headers.entries).countP (fun field => field.1 = lower name) =
      (request.headers.named name).length := by
    rw [linesOf, List.countP_map, HeaderMap.named, List.countP_eq_length_filter]
    rfl
  omega

/-- A request with a duplicated header is refused, and nothing is dropped of a request that is written, exactly if
the request has no duplicate, or if it lacks something and is refused for that. -/
theorem duplicates_refused_iff {crates : Crates} (iterates : Iterates crates.iter) (request : Request) :
    DuplicateRefused crates request ∧ NothingDropped crates request ↔
      (Duplicated request.headers → ¬ Complete request.headers ∧ ∀ path, ¬ Sendable request path) := by
  constructor
  · rintro ⟨refused, kept⟩ duplicated
    constructor
    · intro complete
      -- a complete request is refused for its target only
      obtain ⟨name, error, _⟩ := refused complete duplicated
      cases target : request.uri.pathAndQuery with
      | none =>
        rw [generateRequest, target] at error
        cases error
      | some path =>
        have sendable := sendable_of_complete target complete
        cases error.symm.trans ((generateRequest_ok_iff iterates).mpr ⟨path, sendable, rfl⟩)
    · exact fun path sendable => dropped_of_duplicated iterates sendable duplicated kept
  · intro lacking
    constructor
    · exact fun complete duplicated => absurd complete (lacking duplicated).1
    · intro sent generated field _
      obtain ⟨path, sendable, rfl⟩ := (generateRequest_ok_iff iterates).mp generated
      have unique : ¬ Duplicated request.headers := fun duplicated => (lacking duplicated).2 path sendable
      exact (sentLines_perm iterates sendable unique).count_eq field

theorem duplicates_refused_iff_sample :
    DuplicateRefused (referenceCrates fun _ => sampleHash) sampleRequest ∧
        NothingDropped (referenceCrates fun _ => sampleHash) sampleRequest ↔
      (Duplicated sampleRequest.headers →
        ¬ Complete sampleRequest.headers ∧ ∀ path, ¬ Sendable sampleRequest path) :=
  duplicates_refused_iff (referenceCrates_documented _).iter sampleRequest

/-- A request for which a second host has been set. -/
def twoHosts : ClientRequestBuilder :=
  (ClientRequestBuilder.new ⟨some (ascii "ws"), some (ascii "localhost"), some chatPath⟩)
    |>.withHeader (ascii "Host") (ascii "example.org")

/-- The second host is dropped, and the request is written. -/
theorem not_refused_twoHosts :
    ∃ request, twoHosts.intoClientRequest (referenceCrates fun _ => sampleHash) (List.replicate 16 0) = .ok request ∧
      Complete request.headers ∧ Duplicated request.headers ∧
      ¬ (DuplicateRefused (referenceCrates fun _ => sampleHash) request ∧
        NothingDropped (referenceCrates fun _ => sampleHash) request) := by
  refine ⟨_, rfl, ?_, ?_, ?_⟩
  · unfold Complete
    decide
  · unfold Duplicated
    decide
  · rintro ⟨refused, _⟩
    obtain ⟨name, error, _⟩ := refused (by unfold Complete; decide) (by unfold Duplicated; decide)
    have failed : (generateRequest (referenceCrates fun _ => sampleHash) _).isOk = false := congrArg Except.isOk error
    exact absurd failed (by decide)

/-! ## Subprotocols -/

def PROTOCOL_HEADERNAME : List UInt8 := ascii "Sec-WebSocket-Protocol"

/-- The protocols that a request offers, as it was sent. -/
def offered (sent : List UInt8) : List (List UInt8) :=
  ((sentLines sent).filter fun field => field.1 = lower PROTOCOL_HEADERNAME).flatMap fun field => elements field.2

/-- The lines of a name that is not necessary are sent as they are in the map. -/
theorem mem_sentLines {crates : Crates} (iterates : Iterates crates.iter) {request : Request} {path : PathAndQuery}
    (sendable : Sendable request path) {name value : List UInt8} (other : lower name ∉ WEBSOCKET_HEADERS.map lower) :
    (lower name, value) ∈
        sentLines (Lib.Head.write (requestLine path request.version) (requestFields crates request.headers)) ↔
      ∃ line ∈ request.headers.named name, line.2.bytes = value := by
  have required : (lower name, value) ∉
      (firstValues WEBSOCKET_HEADERS request.headers).map (fun field => (lower field.1, field.2)) := by
    intro found
    obtain ⟨field, first, same⟩ := List.mem_map.mp found
    have listed := (firstValues_names WEBSOCKET_HEADERS request.headers).subset (List.mem_map_of_mem first)
    rw [show lower field.1 = lower name from congrArg Prod.fst same] at listed
    exact other listed
  -- it is behind the first values that the line stands, in whatever order the map is iterated
  rw [sentLines_write iterates sendable, List.mem_append, or_iff_right required]
  constructor
  · intro found
    obtain ⟨line, listed, same⟩ := List.mem_map.mp found
    have inMap := (List.mem_filter.mp ((iterates.perm _).mem_iff.mp listed)).1
    exact ⟨line, HeaderMap.mem_named.mpr ⟨inMap, congrArg Prod.fst same⟩, congrArg Prod.snd same⟩
  · rintro ⟨line, listed, rfl⟩
    obtain ⟨inMap, named⟩ := HeaderMap.mem_named.mp listed
    rw [← named] at other ⊢
    have left : line ∈ (without WEBSOCKET_HEADERS request.headers).entries :=
      List.mem_filter.mpr ⟨inMap, by simpa using other⟩
    exact List.mem_map_of_mem ((iterates.perm (without WEBSOCKET_HEADERS request.headers)).mem_iff.mpr left)

theorem mem_offered {crates : Crates} (iterates : Iterates crates.iter) {request : Request} {path : PathAndQuery}
    (sendable : Sendable request path) {name : List UInt8} :
    name ∈ offered (Lib.Head.write (requestLine path request.version) (requestFields crates request.headers)) ↔
      ∃ line ∈ request.headers.named PROTOCOL_HEADERNAME, name ∈ elements line.2.bytes := by
  have other : lower PROTOCOL_HEADERNAME ∉ WEBSOCKET_HEADERS.map lower := by decide
  have lines : ∀ {value}, _ := fun {value} => @mem_sentLines _ iterates _ _ sendable _ value other
  constructor
  · intro found
    obtain ⟨⟨_, value⟩, listed, inside⟩ := List.mem_flatMap.mp found
    obtain ⟨onWire, named⟩ := List.mem_filter.mp listed
    cases of_decide_eq_true named
    obtain ⟨line, inMap, rfl⟩ := lines.mp onWire
    exact ⟨line, inMap, inside⟩
  · rintro ⟨line, inMap, inside⟩
    have onWire := lines.mpr ⟨line, inMap, rfl⟩
    exact List.mem_flatMap.mpr ⟨_, List.mem_filter.mpr ⟨onWire, decide_eq_true rfl⟩, inside⟩

/-- The response passes what is checked before its subprotocol. -/
structure VerifyData.Passes (data : VerifyData) (resp : Response) : Prop where
  status : resp.status = .SWITCHING_PROTOCOLS
  upgrade : headerIs resp.headers (ascii "Upgrade") (ascii "websocket") = true
  connection : headerIs resp.headers (ascii "Connection") (ascii "Upgrade") = true
  accept : (resp.headers.get (ascii "Sec-WebSocket-Accept")).any (fun value => value.bytes = data.acceptKey) = true

theorem VerifyData.Passes.verifyResponse {data : VerifyData} {resp : Response} (passes : data.Passes resp) :
    data.verifyResponse resp = (data.verifySubprotocol resp.headers).map fun _ => resp := by
  rw [VerifyData.verifyResponse]
  simp only [passes.status, passes.upgrade, passes.connection, passes.accept]
  simp

/-- A request that is written has lines with protocols that can be read, or none. -/
theorem extractSubprotocols_ok {request : Request} {path : PathAndQuery} (sendable : Sendable request path) :
    extractSubprotocols request =
      .ok ((request.headers.get PROTOCOL_HEADERNAME).map fun value => elements value.bytes) := by
  rw [extractSubprotocols, ← PROTOCOL_HEADERNAME]
  cases found : request.headers.get PROTOCOL_HEADERNAME with
  | none => rfl
  | some value =>
    obtain ⟨line, listed, named, rfl⟩ := HeaderMap.get_mem found
    have legible := sendable.others line listed (by rw [named]; decide)
    simp only [HeaderValue.toStr_of_legible legible]
    rfl

/-- The response is taken exactly if its protocol is one that was offered, and refused for its protocol otherwise. -/
def DecidedByOffer (data : VerifyData) (resp : Response) (sent protocol : List UInt8) : Prop :=
  (data.verifyResponse resp = .ok resp ↔ protocol ∈ offered sent) ∧
    (protocol ∉ offered sent →
      data.verifyResponse resp = .error (.Protocol (.SecWebSocketSubProtocolError .InvalidSubProtocol)) ∨
        data.verifyResponse resp =
          .error (.Protocol (.SecWebSocketSubProtocolError .ServerSentSubProtocolNoneRequested)))

/-- What the protocol of a response comes to, by the first line with protocols of the request. -/
theorem verifySubprotocol_single {data : VerifyData} {headers : HeaderMap} {line : HeaderLine}
    (single : headers.named PROTOCOL_HEADERNAME = [line]) :
    data.verifySubprotocol headers =
      match data.subprotocols with
      | none => .error (.Protocol (.SecWebSocketSubProtocolError .ServerSentSubProtocolNoneRequested))
      | some accepted =>
        if line.2.Legible then
          if line.2.bytes ∈ accepted then .ok ()
          else .error (.Protocol (.SecWebSocketSubProtocolError .InvalidSubProtocol))
        else .error (.Utf8 .plain) := by
  have found : headers.get (ascii "Sec-WebSocket-Protocol") = some line.2 := by
    rw [HeaderMap.get, ← PROTOCOL_HEADERNAME, single]
    rfl
  rw [VerifyData.verifySubprotocol, found]
  cases data.subprotocols with
  | none => rfl
  | some accepted =>
    by_cases legible : line.2.Legible
    · simp only [HeaderValue.toStr_of_legible legible, if_pos legible, List.contains_iff_mem]
    · simp only [HeaderValue.toStr_of_not_legible legible, if_neg legible]

/-- For a request that is written, with the protocols that were read from it, a response is decided by what was
offered, exactly if there is no line with protocols, or the protocol can be read and stands on the first line if it
stands on any. -/
theorem decided_by_offer_iff {crates : Crates} (iterates : Iterates crates.iter) {request : Request}
    {sent : List UInt8} (generated : generateRequest crates request = .ok sent) :
    ∃ subprotocols, extractSubprotocols request = .ok subprotocols ∧
      ∀ acceptKey (resp : Response) line, VerifyData.Passes ⟨acceptKey, subprotocols⟩ resp →
        resp.headers.named PROTOCOL_HEADERNAME = [line] →
          (DecidedByOffer ⟨acceptKey, subprotocols⟩ resp sent line.2.bytes ↔
            ∀ first, request.headers.get PROTOCOL_HEADERNAME = some first →
              line.2.Legible ∧ ∀ other ∈ request.headers.named PROTOCOL_HEADERNAME,
                line.2.bytes ∈ elements other.2.bytes → line.2.bytes ∈ elements first.bytes) := by
  obtain ⟨path, sendable, rfl⟩ := (generateRequest_ok_iff iterates).mp generated
  refine ⟨_, extractSubprotocols_ok sendable, ?_⟩
  intro acceptKey resp line passes single
  rw [DecidedByOffer, mem_offered iterates sendable, passes.verifyResponse, verifySubprotocol_single single]
  cases found : request.headers.get PROTOCOL_HEADERNAME with
  | none =>
    -- nothing is offered, and every protocol is refused
    have nothing : request.headers.named PROTOCOL_HEADERNAME = [] :=
      List.head?_eq_none_iff.mp (Option.map_eq_none_iff.mp found)
    simp [nothing, Except.map]
  | some first =>
    obtain ⟨firstLine, listed, same⟩ := Option.map_eq_some_iff.mp found
    have listed := List.mem_of_mem_head? listed
    by_cases legible : line.2.Legible
    · by_cases asked : line.2.bytes ∈ elements first.bytes
      · have offers : ∃ other ∈ request.headers.named PROTOCOL_HEADERNAME, line.2.bytes ∈ elements other.2.bytes :=
          ⟨firstLine, listed, same ▸ asked⟩
        simp [legible, asked, offers, Except.map]
      · -- the protocol is refused, and may be offered on a later line
        simp only [Option.map_some, legible, asked, if_true, if_false, Except.map, reduceCtorEq, false_iff]
        constructor
        · rintro ⟨unoffered, _⟩ _ _
          exact ⟨trivial, fun other found inside => (unoffered ⟨other, found, inside⟩).elim⟩
        · intro stands
          refine ⟨?_, fun _ => .inl trivial⟩
          rintro ⟨other, found, inside⟩
          exact asked ((stands first rfl).2 other found inside)
    · -- what cannot be read is refused with another error
      simp only [Option.map_some, legible, if_false, Except.map, reduceCtorEq, false_iff]
      constructor
      · rintro ⟨unoffered, refused⟩
        cases refused unoffered with
        | inl invalid => cases invalid
        | inr unasked => cases unasked
      · intro stands
        exact (stands first rfl).1.elim

/-- A request with protocols on two lines. -/
def twoProtocolLines : Request where
  method := ascii "GET"
  uri := ⟨some (ascii "ws"), some (ascii "localhost"), some chatPath⟩
  version := .HTTP_11
  headers := headerMapOf
    [("Host", "localhost"), ("Connection", "Upgrade"), ("Upgrade", "websocket"), ("Sec-WebSocket-Version", "13"),
      ("Sec-WebSocket-Key", "AAAAAAAAAAAAAAAAAAAAAA=="), ("Sec-WebSocket-Protocol", "soap, chat"),
      ("Sec-WebSocket-Protocol", "superchat")]

/-- The text of this request. -/
def twoProtocolLinesSent : List UInt8 :=
  Lib.Head.write (ascii "GET /chat HTTP/1.1")
    [(ascii "Host", ascii "localhost"), (ascii "Connection", ascii "Upgrade"), (ascii "Upgrade", ascii "websocket"),
      (ascii "Sec-WebSocket-Version", ascii "13"), (ascii "Sec-WebSocket-Key", ascii "AAAAAAAAAAAAAAAAAAAAAA=="),
      (ascii "Sec-WebSocket-Protocol", ascii "soap, chat"), (ascii "Sec-WebSocket-Protocol", ascii "superchat")]

theorem twoProtocolLines_generated :
    generateRequest (referenceCrates fun _ => sampleHash) twoProtocolLines = .ok twoProtocolLinesSent := by
  decide +kernel

/-- A response with this protocol. -/
def answerWith (protocol : String) : Response where
  status := .SWITCHING_PROTOCOLS
  version := .HTTP_11
  headers := headerMapOf
    [("Connection", "upgrade"), ("Upgrade", "websocket"), ("Sec-WebSocket-Accept", "s3pPLMBiTxaQ9kYGzzhZRbK+xOo="),
      ("Sec-WebSocket-Protocol", protocol)]
  body := none

theorem decided_by_offer_iff_sample :
    ∃ subprotocols, extractSubprotocols twoProtocolLines = .ok subprotocols ∧
      ∀ acceptKey (resp : Response) line, VerifyData.Passes ⟨acceptKey, subprotocols⟩ resp →
        resp.headers.named PROTOCOL_HEADERNAME = [line] →
          (DecidedByOffer ⟨acceptKey, subprotocols⟩ resp twoProtocolLinesSent line.2.bytes ↔
            ∀ first, twoProtocolLines.headers.get PROTOCOL_HEADERNAME = some first →
              line.2.Legible ∧ ∀ other ∈ twoProtocolLines.headers.named PROTOCOL_HEADERNAME,
                line.2.bytes ∈ elements other.2.bytes → line.2.bytes ∈ elements first.bytes) :=
  decided_by_offer_iff (referenceCrates_documented _).iter twoProtocolLines_generated

/-- The builder makes this request, and offers the protocol on the second line, which is refused when the server
selects it. -/
theorem not_decided_twoProtocolLines :
    ((ClientRequestBuilder.new twoProtocolLines.uri
        |>.withHeader (ascii "Sec-WebSocket-Protocol") (ascii "soap, chat")
        |>.withSubProtocol (ascii "superchat")).intoClientRequest (referenceCrates fun _ => sampleHash)
          (List.replicate 16 0) = .ok twoProtocolLines) ∧
      generateRequest (referenceCrates fun _ => sampleHash) twoProtocolLines = .ok twoProtocolLinesSent ∧
      ∃ subprotocols line, extractSubprotocols twoProtocolLines = .ok subprotocols ∧
        VerifyData.Passes ⟨ascii "s3pPLMBiTxaQ9kYGzzhZRbK+xOo=", subprotocols⟩ (answerWith "superchat") ∧
        (answerWith "superchat").headers.named PROTOCOL_HEADERNAME = [line] ∧
        ¬ DecidedByOffer ⟨ascii "s3pPLMBiTxaQ9kYGzzhZRbK+xOo=", subprotocols⟩ (answerWith "superchat")
          twoProtocolLinesSent line.2.bytes := by
  refine ⟨by decide +kernel, twoProtocolLines_generated, some [ascii "soap", ascii "chat"], ?_⟩
  obtain ⟨line, single⟩ : ∃ line, (answerWith "superchat").headers.named PROTOCOL_HEADERNAME = [line] :=
    List.length_eq_one_iff.mp (by decide +kernel)
  have protocol : ((answerWith "superchat").headers.named PROTOCOL_HEADERNAME).map (fun line => line.2.bytes) =
      [ascii "superchat"] := by decide +kernel
  rw [single] at protocol
  refine ⟨line, by decide +kernel, ⟨rfl, by decide +kernel, by decide +kernel, by decide +kernel⟩, single, ?_⟩
  rw [show line.2.bytes = ascii "superchat" from (List.cons.inj protocol).1]
  rintro ⟨taken, _⟩
  exact absurd (taken.mpr (by decide +kernel)) (by decide +kernel)

end Client

end MonoioTungstenite
