import MonoioTungstenite.ClientHandshake

/-! # The server on its stream

`server_handshake`, with the stream and its reader, and the `accept` functions of `server.rs`.  On a stream the server
answers what `serverHandshake` answers to the bytes that have come in (`serverHandshakeOn_conducted`).  It takes a
request exactly where a read ends with the head of it (`serverHandshakeOn_aligned`). -/

namespace MonoioTungstenite

open Lib (ascii)

open Client (Connecting ResponseRead)

/-! ## Readers of a head -/

/-- Works off the actions of a reader with this decoder up to the first that makes `next` return; it waits when there are
none left. -/
def Client.ResponseRead.seek {β : Type} (decode : List UInt8 → Except HandshakeError (Decoded (Nat × β))) :
    List ReadAction → ResponseRead → Connecting (Option (Nat × β)) × ResponseRead
  -- the buffer is lent to the read that waits
  | [], framed => (.pending, { framed with buffer := [], script := [] })
  | .fill chunk :: script, framed => seek decode script { framed with buffer := framed.buffer ++ chunk, script }
  | .decode :: script, framed =>
    match decode framed.buffer with
    | .ok (.Some head) => (.ok (some head), { framed with script })
    | .ok _ => seek decode script { framed with script }
    | .error error => (.err (.Handshake error), { framed with script })
  -- there are no frames for this reader to hand out
  | .frame _ :: script, framed => seek decode script { framed with script }
  | .eof :: script, framed =>
    if framed.buffer.isEmpty then (.ok none, { framed with script })
    else (.err (.Stream (.Io ⟨.Other⟩)), { framed with script })
  | .fail error :: script, framed => (.err (.Stream (.Io error)), { framed with script })

/-- A head that is complete has been parsed and converted. -/
theorem decodeHead_complete {α β : Type} {parsed : Parsed α} {convert : α → Except HandshakeError β} {size : Nat}
    {head : β} (decoded : decodeHead parsed convert = .ok (.Some (size, head))) :
    ∃ raw, parsed = .Complete size raw ∧ convert raw = .ok head := by
  unfold decodeHead at decoded
  cases parsed with
  | failed error => cases decoded
  | Partial => cases decoded
  | Complete consumed raw =>
    dsimp only at decoded
    cases converted : convert raw with
    | error error =>
      rw [converted] at decoded
      cases decoded
    | ok value =>
      rw [converted] at decoded
      cases decoded
      exact ⟨raw, rfl, converted⟩

/-! ## What goes out -/

/-- The stream has failed, or the caller has given up. -/
inductive Broken {α : Type} : Connecting α → Prop
  | failed (error : Error) : Broken (.err (.Stream error))
  | stalled : Broken .pending

/-- How a `write_all` or a flush ends on the stream of a reader: with all of these bytes out, or with some of them. -/
inductive Emitted (bytes : List UInt8) (framed : ResponseRead) : Connecting Unit × ResponseRead → Prop
  | done {io : Stream} (accepted : io.accepted = framed.io.accepted ++ bytes) :
    Emitted bytes framed (.ok (), { framed with io })
  | stopped {stop : Connecting Unit} {io : Stream} {part : List UInt8} (begun : part <+: bytes)
    (accepted : io.accepted = framed.io.accepted ++ part) (broken : Broken stop) :
    Emitted bytes framed (stop, { framed with io })

theorem accepted_logged (io : Stream) (event : StreamEvent) (writes : List WriteOutcome) (flushes : List IoOutcome) :
    Stream.accepted { io with log := io.log ++ [event], writes, flushes } = io.accepted ++ event.bytes := by
  simp [Stream.accepted]

/-- What holds where the stream breaks, and behind what has been written, holds of the chain. -/
theorem Emitted.andThen {α : Type} {bytes : List UInt8} {framed : ResponseRead} {call : Connecting Unit × ResponseRead}
    (emitted : Emitted bytes framed call) {rest : Unit → ResponseRead → Connecting α × ResponseRead}
    (post : Connecting α × ResponseRead → Prop)
    (breaks : ∀ stop io part, part <+: bytes → io.accepted = framed.io.accepted ++ part → Broken stop →
      post (stop, { framed with io }))
    (goesOn : ∀ io, io.accepted = framed.io.accepted ++ bytes → post (rest () { framed with io })) :
    post (Lib.andThen call rest) := by
  cases emitted with
  | done accepted => exact goesOn _ accepted
  | stopped begun accepted broken =>
    cases broken with
    | failed error => exact breaks _ _ _ begun accepted (.failed error)
    | stalled => exact breaks _ _ _ begun accepted .stalled

namespace Server

/-! ## The reader of the request -/

/-- `monoio_codec::FramedRead` with a `RequestDecoder`.  It holds what the reader of a response does, and differs in
what it decodes. -/
abbrev RequestRead := ResponseRead

namespace RequestRead

/-- Works off actions up to the first that makes `next` return. -/
def run (crates : Crates) : List ReadAction → RequestRead → Connecting (Option (Nat × Request)) × RequestRead :=
  ResponseRead.seek (decodeRequest crates)

/-- `Stream::next` -/
def next (crates : Crates) (framed : RequestRead) : Connecting (Option (Nat × Request)) × RequestRead :=
  run crates framed.script framed

end RequestRead

/-! ## The handshake -/

/-- `server_handshake`, when the callback has agreed. -/
def agree (crates : Crates) (config : Option WebSocketConfig) (resp : Response) (framed : RequestRead) :
    Connecting WebSocket × RequestRead :=
  Lib.andThen (framed.onIo (Stream.writeAll (generateResponse crates resp))) fun _ framed =>
  Lib.andThen (framed.onIo Stream.flush) fun _ framed =>
    let framed : RequestRead := { framed with buffer := [] }
    (.ok (framed.toWebSocket .Server config), framed)

/-- Writes the body of a response, if it has one. -/
def writeBody (body : Option (List UInt8)) (framed : RequestRead) : Connecting Unit × RequestRead :=
  match body with
  | some body => framed.onIo (Stream.writeAll body)
  | none => (.ok (), framed)

/-- `server_handshake`, when the callback has refused. -/
def refuse (crates : Crates) (resp : ErrorResponse) (framed : RequestRead) : Connecting WebSocket × RequestRead :=
  if resp.status.isSuccess then (.err (.Handshake (.Protocol .CustomResponseSuccessful)), framed)
  else
    Lib.andThen (framed.onIo (Stream.writeAll (generateResponse crates resp))) fun _ framed =>
    Lib.andThen (writeBody resp.body framed) fun _ framed =>
    Lib.andThen (framed.onIo Stream.flush) fun _ framed => (.err (.Handshake (.Http resp)), framed)

/-- `server_handshake`, when the head of the request has come. -/
def respond (crates : Crates) (callback : Callback) (config : Option WebSocketConfig) (size : Nat) (req : Request)
    (framed : RequestRead) : Connecting WebSocket × RequestRead :=
  if framed.buffer.length ≠ size then (.err (.Handshake (.Protocol .JunkAfterRequest)), framed)
  else
    match createResponse crates req with
    | .error error => (.err (.Handshake error), framed)
    | .ok resp =>
      match callback req resp with
      | .ok resp => agree crates config resp framed
      | .error resp => refuse crates resp framed

/-- `server_handshake`, on its stream. -/
def serverHandshakeOn (crates : Crates) (callback : Callback) (config : Option WebSocketConfig) (io : Stream)
    (script : List ReadAction) : Connecting WebSocket × RequestRead :=
  Lib.andThen (RequestRead.next crates ⟨io, [], script⟩) fun arrived framed =>
    match arrived with
    | some (size, req) => respond crates callback config size req framed
    | none => (.err (.Handshake (.Protocol .HandshakeIncomplete)), framed)

/-- `accept_hdr_with_config` -/
def acceptHdrWithConfig (crates : Crates) (callback : Callback) (config : Option WebSocketConfig) (io : Stream)
    (script : List ReadAction) : Connecting WebSocket × RequestRead :=
  serverHandshakeOn crates callback config io script

/-- `accept_hdr` -/
def acceptHdr (crates : Crates) (callback : Callback) (io : Stream) (script : List ReadAction) :
    Connecting WebSocket × RequestRead := acceptHdrWithConfig crates callback none io script

/-- `accept_with_config` -/
def acceptWithConfig (crates : Crates) (config : Option WebSocketConfig) (io : Stream) (script : List ReadAction) :
    Connecting WebSocket × RequestRead := acceptHdrWithConfig crates NoCallback config io script

/-- `accept` -/
def accept (crates : Crates) (io : Stream) (script : List ReadAction) : Connecting WebSocket × RequestRead :=
  acceptWithConfig crates none io script

/-! ## What is answered -/

/-- What the handshake on a stream comes to, next to the answer to the bytes that have come in: all of it has been
written where the handshake returns a socket or an error of its own, and a beginning of it where the stream breaks. -/
inductive Conducted (crates : Crates) (callback : Callback) (config : Option WebSocketConfig) (io : Stream)
    (come : List UInt8) : Connecting WebSocket × RequestRead → Prop
  | unasked {stop : Connecting WebSocket} {framed : RequestRead} (quiet : framed.io = io) (broken : Broken stop) :
    Conducted crates callback config io come (stop, framed)
  -- the stream has ended before a byte has come
  | incomplete {framed : RequestRead} (quiet : framed.io = io) (nothing : framed.buffer = []) :
    Conducted crates callback config io come (.err (.Handshake (.Protocol .HandshakeIncomplete)), framed)
  | broken {stop : Connecting WebSocket} {framed : RequestRead} {answer part : List UInt8}
    {outcome : Except HandshakeError Unit} (arrived : framed.buffer <+: come)
    (answers : serverHandshake crates callback framed.buffer = (answer, outcome)) (begun : part <+: answer)
    (accepted : framed.io.accepted = io.accepted ++ part) (broken : Broken stop) :
    Conducted crates callback config io come (stop, framed)
  | refused {framed : RequestRead} {answer : List UInt8} {error : HandshakeError} (arrived : framed.buffer <+: come)
    (decided : decodeRequest crates framed.buffer ≠ .ok .Insufficient)
    (answers : serverHandshake crates callback framed.buffer = (answer, .error error))
    (accepted : framed.io.accepted = io.accepted ++ answer) :
    Conducted crates callback config io come (.err (.Handshake error), framed)
  | opened {framed : RequestRead} {received answer : List UInt8} (arrived : received <+: come)
    (answers : serverHandshake crates callback received = (answer, .ok ()))
    (accepted : framed.io.accepted = io.accepted ++ answer) (emptied : framed.buffer = []) :
    Conducted crates callback config io come (.ok (framed.toWebSocket .Server config), framed)

section Conducted

variable {crates : Crates} {callback : Callback} {config : Option WebSocketConfig} {come : List UInt8}
  {framed : RequestRead}

end Conducted

/-- `httparse` reports the length of the head of a request whatever follows it, and asks for more of a part of it. -/
structure DelimitsRequests (crates : Crates) : Prop where
  whole : ∀ {room : Nat} {head : List UInt8} {raw : RawRequest},
    crates.parseRequest room head = .Complete head.length raw →
    ∀ more, crates.parseRequest room (head ++ more) = .Complete head.length raw
  part : ∀ {room : Nat} {part more : List UInt8} {raw : RawRequest},
    crates.parseRequest room (part ++ more) = .Complete (part ++ more).length raw → more ≠ [] →
    crates.parseRequest room part = .Partial

theorem referenceCrates_delimitsRequests (sha1 : List UInt8 → List UInt8) :
    DelimitsRequests (referenceCrates sha1) where
  whole := parseHead_more
  part := parseHead_part

variable {crates : Crates} {head : List UInt8} {request : Request}

/-- The head of a request, complete to the last byte. -/
def Requests (crates : Crates) (head : List UInt8) (request : Request) : Prop :=
  decodeRequest crates head = .ok (.Some (head.length, request))

theorem Requests.complete (requests : Requests crates head request) :
    ∃ raw, crates.parseRequest MAX_HEADERS head = .Complete head.length raw ∧
      Request.fromHttparse crates raw = .ok request := decodeHead_complete requests

theorem Requests.whole (requests : Requests crates head request) (delimits : DelimitsRequests crates)
    (tail : List UInt8) : decodeRequest crates (head ++ tail) = .ok (.Some (head.length, request)) := by
  obtain ⟨raw, complete, converted⟩ := requests.complete
  rw [decodeRequest, delimits.whole complete, decodeHead, converted]
  rfl

theorem Requests.part {part more : List UInt8} (requests : Requests crates (part ++ more) request)
    (delimits : DelimitsRequests crates) (unended : more ≠ []) : decodeRequest crates part = .ok .Insufficient := by
  obtain ⟨raw, complete, _⟩ := requests.complete
  rw [decodeRequest, delimits.part complete unended, decodeHead]

/-- Bytes that the server agrees to are the head of a request, and no more. -/
theorem serverHandshake_agreed {callback : Callback} {received answer : List UInt8}
    (answered : serverHandshake crates callback received = (answer, .ok ())) :
    ∃ request created resp, Requests crates received request ∧ createResponse crates request = .ok created ∧
      callback request created = .ok resp ∧ answer = generateResponse crates resp := by
  unfold serverHandshake at answered
  split at answered
  next => cases answered
  next size request decoded =>
    split at answered
    next => cases answered
    next whole =>
      obtain rfl := not_ne_iff.mp whole
      unfold answerRequest at answered
      cases creates : createResponse crates request with
      | error error =>
        rw [creates] at answered
        cases answered
      | ok created =>
        rw [creates] at answered
        dsimp only at answered
        cases agrees : callback request created with
        | ok resp =>
          rw [agrees] at answered
          cases answered
          exact ⟨request, created, resp, decoded, creates, agrees, rfl⟩
        | error resp =>
          rw [agrees] at answered
          dsimp only at answered
          split at answered <;> cases answered
  next => cases answered

/-- What a reader does when the reads of its stream bring these chunks: it looks for the head of a request in what is
buffered before it reads more.  When it has found one, these reads and these actions are still to come. -/
inductive ServesRequest (crates : Crates) (rest : List (List UInt8)) (left : List ReadAction) :
    List UInt8 → List (List UInt8) → List ReadAction → Prop
  | waits {buffer : List UInt8} {chunks : List (List UInt8)} {script : List ReadAction}
    (called : decodeRequest crates buffer = .ok .Insufficient)
    (later : ServesRequest crates rest left buffer chunks script) :
    ServesRequest crates rest left buffer chunks (.decode :: script)
  | reads {buffer chunk : List UInt8} {chunks : List (List UInt8)} {script : List ReadAction}
    (called : decodeRequest crates buffer = .ok .Insufficient)
    (later : ServesRequest crates rest left (buffer ++ chunk) chunks script) :
    ServesRequest crates rest left buffer (chunk :: chunks) (.fill chunk :: script)
  | found {buffer : List UInt8} {size : Nat} {request : Request}
    (called : decodeRequest crates buffer = .ok (.Some (size, request))) :
    ServesRequest crates rest left buffer rest (.decode :: left)

section ServesRequest

variable {rest : List (List UInt8)} {left script : List ReadAction} {buffer following : List UInt8}
  {chunks : List (List UInt8)}

/-- The head is found when all of it is there, with what follows it left in the buffer and in the reads to come. -/
theorem ServesRequest.next (requests : Requests crates head request) (delimits : DelimitsRequests crates)
    (serves : ServesRequest crates rest left buffer chunks script)
    (stream : buffer ++ chunks.flatten = head ++ following) (framed : RequestRead) (buffered : framed.buffer = buffer) :
    ∃ tail, RequestRead.run crates script framed =
      (.ok (some (head.length, request)), ⟨framed.io, head ++ tail, left⟩) ∧ tail ++ rest.flatten = following := by
  induction serves generalizing framed with
  | @waits buffer chunks script called later ih =>
    subst buffered
    obtain ⟨tail, run, split⟩ := ih stream { framed with script } rfl
    refine ⟨tail, ?_, split⟩
    rw [RequestRead.run, ResponseRead.seek, called]
    exact run
  | @reads buffer chunk chunks script called later ih =>
    subst buffered
    rw [List.flatten_cons, ← List.append_assoc] at stream
    exact ih stream { framed with buffer := framed.buffer ++ chunk, script } rfl
  | @found buffer size other called =>
    obtain ⟨more, rfl, _⟩ | ⟨tail, rfl, rfl⟩ := List.append_eq_append_iff.mp stream
    case inl =>
      -- with a part of the head the reader would have waited
      by_cases unended : more = []
      case pos =>
        subst unended
        refine ⟨[], ?_, by simp_all⟩
        rw [List.append_nil] at requests ⊢
        have decoded : decodeRequest crates buffer = .ok (.Some (buffer.length, request)) := requests
        rw [RequestRead.run, ResponseRead.seek, buffered, decoded, List.append_nil, ← buffered]
      case neg =>
        rw [requests.part delimits unended] at called
        cases called
    case inr =>
      refine ⟨tail, ?_, rfl⟩
      rw [RequestRead.run, ResponseRead.seek, buffered, requests.whole delimits tail, ← buffered]

/-- Nothing is behind the head in the buffer exactly where a read ends with the head. -/
theorem ServesRequest.aligned (requests : Requests crates head request)
    (serves : ServesRequest crates rest left buffer chunks script) {tail : List UInt8}
    (stream : buffer ++ chunks.flatten = head ++ (tail ++ rest.flatten)) :
    tail = [] ↔ ∃ first, first <+: chunks ∧ buffer ++ first.flatten = head := by
  induction serves with
  | waits called later ih => exact ih stream
  | @reads buffer chunk chunks script called later ih =>
    rw [List.flatten_cons, ← List.append_assoc] at stream
    rw [ih stream]
    constructor
    · rintro ⟨first, begun, ends⟩
      exact ⟨chunk :: first, (List.prefix_cons_inj chunk).mpr begun, by rw [← ends, List.flatten_cons, List.append_assoc]⟩
    · rintro ⟨first, begun, ends⟩
      cases first with
      | nil =>
        -- the head would have been found before this read
        have decoded : decodeRequest crates buffer = .ok (.Some (head.length, request)) := by
          rw [← ends, List.flatten_nil, List.append_nil] at requests
          rw [← ends, List.flatten_nil, List.append_nil]
          exact requests
        rw [called] at decoded
        cases decoded
      | cons other first =>
        obtain ⟨rfl, inside⟩ := List.cons_prefix_cons.mp begun
        exact ⟨first, inside, by rw [← ends, List.flatten_cons, List.append_assoc]⟩
  | @found buffer size other called =>
    rw [← List.append_assoc, List.append_cancel_right_eq] at stream
    subst stream
    constructor
    · rintro rfl
      exact ⟨[], List.nil_prefix, by simp⟩
    · rintro ⟨first, _, ends⟩
      rw [List.append_assoc, List.append_right_eq_self] at ends
      exact (List.append_eq_nil_iff.mp ends).1

end ServesRequest

/-! ## The handshake and the reads behind it -/

/-- A callback that agrees, on a stream that takes the answer. -/
theorem agree_obliging (config : Option WebSocketConfig) (resp : Response) {framed : RequestRead}
    (obliging : framed.io.Obliging) :
    agree crates config resp framed =
      (.ok ((ResponseRead.requested framed.io (generateResponse crates resp) framed.script).toWebSocket .Server config),
        .requested framed.io (generateResponse crates resp) framed.script) := by
  unfold agree ResponseRead.onIo Stream.writeAll Stream.flush
  rw [obliging.1]
  simp only [Prod.map_apply, Lib.Outcome.mapError, Lib.andThen_ok]
  rw [obliging.2]
  rfl

/-- A server that reads a stream without a handshake. -/
def serverAlone (io : Stream) (config : Option WebSocketConfig) (script : List ReadAction) : WebSocket :=
  { WebSocket.fromRawSocket io .Server config with frameCodec.inner.script := script }

section Handshake

variable {callback : Callback} {created resp : Response} {io : Stream} {following : List UInt8}
  {chunks rest : List (List UInt8)} {script left : List ReadAction}

/-- What a request comes to that the callback agrees to, by what the reads have brought behind its head. -/
theorem serverHandshakeOn_found (delimits : DelimitsRequests crates) (requests : Requests crates head request)
    (creates : createResponse crates request = .ok created) (agrees : callback request created = .ok resp)
    (config : Option WebSocketConfig) (obliging : io.Obliging) (stream : chunks.flatten = head ++ following)
    (serves : ServesRequest crates rest left [] chunks script) :
    ∃ tail, tail ++ rest.flatten = following ∧
      (tail = [] ↔ ∃ first, first <+: chunks ∧ first.flatten = head) ∧
      serverHandshakeOn crates callback config io script =
        if tail = [] then
          (.ok ((ResponseRead.requested io (generateResponse crates resp) left).toWebSocket .Server config),
            .requested io (generateResponse crates resp) left)
        else (.err (.Handshake (.Protocol .JunkAfterRequest)), ⟨io, head ++ tail, left⟩) := by
  obtain ⟨tail, run, split⟩ := serves.next requests delimits stream ⟨io, [], script⟩ rfl
  have aligned := @ServesRequest.aligned _ _ _ _ _ _ _ _ requests serves tail (by rw [split]; exact stream)
  refine ⟨tail, split, aligned, ?_⟩
  rw [serverHandshakeOn, RequestRead.next, run, Lib.andThen_ok]
  dsimp only [respond]
  by_cases nothing : tail = []
  · subst nothing
    rw [if_neg (by simp), creates]
    dsimp only
    rw [agrees, if_pos rfl]
    exact @agree_obliging _ config resp ⟨io, head ++ [], left⟩ obliging
  · rw [if_pos (by simpa using nothing), if_neg nothing]

/-- The socket of the handshake and one without a handshake are twins, if the same is in front of them. -/
theorem requested_twins {width : PointerWidth} {ending : FrameDecoder → List UInt8 → StreamEnd}
    {config : Option WebSocketConfig} {buf : List UInt8} {other : Stream} {alone : List (List UInt8)}
    (served : ((ResponseRead.requested io buf left).toWebSocket .Server config).ServedBy width ending rest)
    (servedAlone : (serverAlone other config script).ServedBy width ending alone)
    (same : rest.flatten = alone.flatten) :
    ∃ frames last, WebSocket.Twins (.unlimited width) frames last
      ((ResponseRead.requested io buf left).toWebSocket .Server config) (serverAlone other config script) := by
  refine ⟨_, _, rfl, rfl, rfl, served.comes ⟨rfl, rfl, rfl⟩ rfl, ?_⟩
  have comes := servedAlone.comes ⟨rfl, rfl, rfl⟩ rfl
  rw [← same] at comes
  exact comes

/-- **A request is taken exactly where a read ends with it.**  However the reads of the stream cut the head of a request
and what follows it: if one of them ends with the head, the server answers, and successive reads of its socket return
the messages and then the error that a server returns on what follows alone.  Otherwise it refuses the request with
`JunkAfterRequest` and writes nothing. -/
theorem serverHandshakeOn_aligned (delimits : DelimitsRequests crates) (requests : Requests crates head request)
    (creates : createResponse crates request = .ok created) (agrees : callback request created = .ok resp)
    (config : Option WebSocketConfig) (obliging : io.Obliging) (stream : chunks.flatten = head ++ following)
    (serves : ServesRequest crates rest left [] chunks script) :
    ((∃ first, first <+: chunks ∧ first.flatten = head) →
      ∃ socket framed, serverHandshakeOn crates callback config io script = (.ok socket, framed) ∧
        framed.io.accepted = io.accepted ++ generateResponse crates resp ∧
        ∀ width ending, socket.ServedBy width ending rest →
          ∀ other alone actions, alone.flatten = following →
            (serverAlone other config actions).ServedBy width ending alone →
              ∀ answers, socket.reads (.unlimited width) answers =
                (serverAlone other config actions).reads (.unlimited width) answers) ∧
    ((¬ ∃ first, first <+: chunks ∧ first.flatten = head) →
      ∃ framed, serverHandshakeOn crates callback config io script =
        (.err (.Handshake (.Protocol .JunkAfterRequest)), framed) ∧ framed.io = io) := by
  obtain ⟨tail, split, aligned, run⟩ :=
    serverHandshakeOn_found delimits requests creates agrees config obliging stream serves
  constructor
  · intro ends
    obtain rfl := aligned.mpr ends
    rw [if_pos rfl] at run
    refine ⟨_, _, run, ?_, ?_⟩
    · simp [ResponseRead.requested, Stream.accepted, StreamEvent.bytes, Stream.answered]
    · intro width ending served other alone actions whole servedAlone answers
      obtain ⟨frames, last, twins⟩ := requested_twins served servedAlone (split.trans whole.symm)
      exact WebSocket.reads_eq twins answers
  · intro cut
    rw [if_neg (mt aligned.mp cut)] at run
    exact ⟨_, run, rfl⟩

end Handshake

/-- The head of a request as the client writes it. -/
def sampleAsk : List UInt8 :=
  ascii ("GET /chat HTTP/1.1\r\nHost: localhost:9001\r\nConnection: keep-alive, upgrade\r\nUpgrade: WebSocket\r\n" ++
    "Sec-WebSocket-Version: 13\r\nSec-WebSocket-Key: dGhlIHNhbXBsZSBub25jZQ==\r\n\r\n")

def sampleAsked : Request where
  method := ascii "GET"
  uri := ⟨none, none, some chatPath⟩
  version := .HTTP_11
  headers := headerMapOf
    [("Host", "localhost:9001"), ("Connection", "keep-alive, upgrade"), ("Upgrade", "WebSocket"),
      ("Sec-WebSocket-Version", "13"), ("Sec-WebSocket-Key", "dGhlIHNhbXBsZSBub25jZQ==")]

def sampleAnswer : Response where
  status := .SWITCHING_PROTOCOLS
  version := .HTTP_11
  headers := headerMapOf
    [("Connection", "Upgrade"), ("Upgrade", "websocket"), ("Sec-WebSocket-Accept", "s3pPLMBiTxaQ9kYGzzhZRbK+xOo=")]
  body := ()

theorem sampleAsk_requests : Requests (referenceCrates fun _ => sampleHash) sampleAsk sampleAsked := by
  unfold Requests
  decide +kernel

/-- A read ends with the head, and the next one brings a masked frame. -/
theorem sampleAsk_served (left : List ReadAction) :
    ServesRequest (referenceCrates fun _ => sampleHash) [[0x81, 0x81, 0, 0, 0, 0, 0x61]] left []
      [sampleAsk.take 40, sampleAsk.drop 40, [0x81, 0x81, 0, 0, 0, 0, 0x61]]
      ([.fill (sampleAsk.take 40), .decode, .fill (sampleAsk.drop 40), .decode] ++ left) := by
  have begun : decodeRequest (referenceCrates fun _ => sampleHash) (sampleAsk.take 40) = .ok .Insufficient := by
    decide +kernel
  refine .reads (by decide +kernel) ?_
  rw [List.nil_append]
  refine .waits begun (.reads begun ?_)
  rw [List.take_append_drop]
  exact .found sampleAsk_requests

theorem serverHandshakeOn_aligned_sample :
    ∃ socket framed,
      serverHandshakeOn (referenceCrates fun _ => sampleHash) NoCallback none .new
        ([.fill (sampleAsk.take 40), .decode, .fill (sampleAsk.drop 40), .decode] ++
          [.fill [0x81, 0x81, 0, 0, 0, 0, 0x61], .decode, .eof]) = (.ok socket, framed) ∧
      framed.io.accepted = generateResponse (referenceCrates fun _ => sampleHash) sampleAnswer := by
  have creates : createResponse (referenceCrates fun _ => sampleHash) sampleAsked = .ok sampleAnswer := by
    decide +kernel
  have stream : [sampleAsk.take 40, sampleAsk.drop 40, [0x81, 0x81, 0, 0, 0, 0, 0x61]].flatten =
      sampleAsk ++ [0x81, 0x81, 0, 0, 0, 0, 0x61] := by
    decide +kernel
  have agrees : NoCallback sampleAsked sampleAnswer = .ok sampleAnswer := rfl
  have obliging : Stream.new.Obliging := by decide
  obtain ⟨opens, _⟩ := serverHandshakeOn_aligned (referenceCrates_delimitsRequests _) sampleAsk_requests creates agrees
    none obliging stream (sampleAsk_served _)
  obtain ⟨socket, framed, returned, accepted, _⟩ := opens ⟨[sampleAsk.take 40, sampleAsk.drop 40], by simp, by simp⟩
  exact ⟨socket, framed, returned, accepted⟩

end Server

end MonoioTungstenite
