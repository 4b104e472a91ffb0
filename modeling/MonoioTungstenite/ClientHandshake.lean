import MonoioTungstenite.Agreement
import MonoioTungstenite.Reads

/-! # From the handshake to frames

`client_handshake`, with the stream and its reader.  The reader that has found the head of the response goes on
as the reader of the WebSocket, with what is in its buffer behind the head: reads return what they would if
nothing had been in front of it (`handover_lossless`). -/

namespace MonoioTungstenite

open Lib (ascii)

/-- `Error`, of `client_handshake`: one of the stream, or one of the handshake. -/
inductive ConnectError where
  | Stream (error : Error)
  | Handshake (error : HandshakeError)
  deriving DecidableEq

namespace Client

abbrev Connecting (α : Type) := Lib.Outcome ConnectError Panic α

/-! ## The reader of the response -/

/-- `monoio_codec::FramedRead` with a `ResponseDecoder`, and the stream that it reads.  A handshake calls `next` once, so
this reader keeps no record of an error. -/
structure ResponseRead where
  io : Stream
  buffer : List UInt8
  script : List ReadAction

namespace ResponseRead

/-- Runs an operation of the stream. -/
def onIo (call : Stream → Result Unit × Stream) (framed : ResponseRead) : Connecting Unit × ResponseRead :=
  (call framed.io).map (Lib.Outcome.mapError .Stream) fun io => { framed with io }

/-- Works off actions up to the first that makes `next` return; it waits when there are none left. -/
def run (crates : Crates) : List ReadAction → ResponseRead → Connecting (Option (Nat × Response)) × ResponseRead
  -- the buffer is lent to the read that waits
  | [], framed => (.pending, { framed with buffer := [], script := [] })
  | .fill chunk :: script, framed => run crates script { framed with buffer := framed.buffer ++ chunk, script }
  | .decode :: script, framed =>
    match decodeResponse crates framed.buffer with
    | .ok (.Some head) => (.ok (some head), { framed with script })
    | .ok _ => run crates script { framed with script }
    | .error error => (.err (.Handshake error), { framed with script })
  -- there are no frames for this reader to hand out
  | .frame _ :: script, framed => run crates script { framed with script }
  | .eof :: script, framed =>
    if framed.buffer.isEmpty then (.ok none, { framed with script })
    else (.err (.Stream (.Io ⟨.Other⟩)), { framed with script })
  | .fail error :: script, framed => (.err (.Stream (.Io error)), { framed with script })

/-- `Stream::next` -/
def next (crates : Crates) (framed : ResponseRead) : Connecting (Option (Nat × Response)) × ResponseRead :=
  run crates framed.script framed

/-- `FrameCodec::from_framed_read` -/
def toFrameCodec (writeLimit : Nat) (framed : ResponseRead) : FrameCodec where
  inner := ⟨FrameDecoder.default, framed.buffer, false, framed.script, framed.buffer, [], []⟩
  io := framed.io
  writeBuf := []
  writeLimit
  queued := []

/-- `WebSocket::from_framed_read` -/
def toWebSocket (role : Role) (config : Option WebSocketConfig) (framed : ResponseRead) : WebSocket :=
  let config := config.getD .default
  WebSocket.setup (framed.toFrameCodec config.writeBufferSize) role config

end ResponseRead

/-! ## The handshake -/

/-- `client_handshake`, when the head of the response has come. -/
def switch (data : VerifyData) (config : Option WebSocketConfig) (size : Nat) (resp : Response) (framed : ResponseRead) :
    Connecting (WebSocket × Response) × ResponseRead :=
  if framed.buffer.length < size then (.panic .advancePastEnd, framed)
  else
    let framed := { framed with buffer := framed.buffer.drop size }
    let tail := framed.buffer
    match data.verifyResponse resp with
    | .ok resp => (.ok (framed.toWebSocket .Client config, resp), framed)
    | .error (.Http refused) => (.err (.Handshake (.Http { refused with body := some tail })), framed)
    | .error error => (.err (.Handshake error), framed)

/-- `client_handshake` -/
def clientHandshake (crates : Crates) (request : Request) (config : Option WebSocketConfig) (io : Stream)
    (script : List ReadAction) : Connecting (WebSocket × Response) × ResponseRead :=
  let framed : ResponseRead := ⟨io, [], script⟩
  match openHandshake crates request with
  | .error error => (.err (.Handshake error), framed)
  | .ok (data, buf) =>
    Lib.andThen (framed.onIo (Stream.writeAll buf)) fun _ framed =>
    Lib.andThen (framed.onIo Stream.flush) fun _ framed =>
    Lib.andThen (framed.next crates) fun arrived framed =>
      match arrived with
      | some (size, resp) => switch data config size resp framed
      | none => (.err (.Handshake (.Protocol .HandshakeIncomplete)), framed)

/-- What becomes of a response is what `finishHandshake` makes of the bytes. -/
theorem switch_eq_finishHandshake {crates : Crates} {framed : ResponseRead} {size : Nat} {resp : Response}
    (decoded : decodeResponse crates framed.buffer = .ok (.Some (size, resp))) (within : size ≤ framed.buffer.length)
    (data : VerifyData) (config : Option WebSocketConfig) :
    (switch data config size resp framed).1 =
      match finishHandshake crates data framed.buffer with
      | .ok resp =>
        .ok (ResponseRead.toWebSocket .Client config { framed with buffer := framed.buffer.drop size }, resp)
      | .error error => .err (.Handshake error) := by
  rw [switch, if_neg (Nat.not_lt.mpr within), finishHandshake, decoded]
  simp only [bind, Except.bind]
  cases data.verifyResponse resp with
  | ok resp => rfl
  | error error => cases error <;> rfl

/-! ## The head of the response -/

/-- The head of a response, complete to the last byte, that the client accepts. -/
structure Accepted (crates : Crates) (data : VerifyData) (head : List UInt8) (response : Response) : Prop where
  decoded : decodeResponse crates head = .ok (.Some (head.length, response))
  verified : data.verifyResponse response = .ok response

variable {crates : Crates} {data : VerifyData} {head : List UInt8} {response : Response}

theorem Accepted.complete (accepted : Accepted crates data head response) :
    ∃ raw, crates.parseResponse MAX_HEADERS head = .Complete head.length raw ∧
      Response.fromHttparse raw = .ok response := by
  have decoded := accepted.decoded
  unfold decodeResponse decodeHead at decoded
  split at decoded
  next => cases decoded
  next => cases decoded
  next size raw complete =>
    cases converted : Response.fromHttparse raw with
    | error =>
      rw [converted] at decoded
      cases decoded
    | ok value =>
      rw [converted] at decoded
      cases decoded
      exact ⟨raw, complete, converted⟩

theorem Accepted.whole (accepted : Accepted crates data head response) (delimits : crates.Delimits)
    (tail : List UInt8) : decodeResponse crates (head ++ tail) = .ok (.Some (head.length, response)) := by
  obtain ⟨raw, complete, converted⟩ := accepted.complete
  rw [decodeResponse, delimits.whole complete, decodeHead, converted]
  rfl

theorem Accepted.part {part more : List UInt8} (accepted : Accepted crates data (part ++ more) response)
    (delimits : crates.Delimits) (unended : more ≠ []) : decodeResponse crates part = .ok .Insufficient := by
  obtain ⟨raw, complete, _⟩ := accepted.complete
  rw [decodeResponse, delimits.part complete unended, decodeHead]

/-- With the whole head in the buffer some of what follows may be there as well, and with a part of it the decoder
waits for what is still to come. -/
theorem Accepted.cut (accepted : Accepted crates data head response) (delimits : crates.Delimits)
    {buffer later following : List UInt8} (stream : buffer ++ later = head ++ following) :
    (∃ tail, buffer = head ++ tail ∧ tail ++ later = following) ∨
      (later ≠ [] ∧ decodeResponse crates buffer = .ok .Insufficient) := by
  obtain ⟨more, rfl, rfl⟩ | ⟨tail, rfl, rfl⟩ := List.append_eq_append_iff.mp stream
  case inl =>
    by_cases unended : more = []
    case pos =>
      subst unended
      exact .inl ⟨[], by simp, rfl⟩
    case neg => exact .inr ⟨by simp [unended], accepted.part delimits unended⟩
  case inr => exact .inl ⟨tail, rfl, rfl⟩

/-- What a reader does when the reads of its stream bring these chunks: it looks for the head of a response in what is
buffered before it reads more.  When it has found one, these reads and these actions are still to come. -/
inductive ServesResponse (crates : Crates) (rest : List (List UInt8)) (left : List ReadAction) :
    List UInt8 → List (List UInt8) → List ReadAction → Prop
  | waits {buffer : List UInt8} {chunks : List (List UInt8)} {script : List ReadAction}
    (called : decodeResponse crates buffer = .ok .Insufficient)
    (later : ServesResponse crates rest left buffer chunks script) :
    ServesResponse crates rest left buffer chunks (.decode :: script)
  | reads {buffer chunk : List UInt8} {chunks : List (List UInt8)} {script : List ReadAction}
    (called : decodeResponse crates buffer = .ok .Insufficient)
    (later : ServesResponse crates rest left (buffer ++ chunk) chunks script) :
    ServesResponse crates rest left buffer (chunk :: chunks) (.fill chunk :: script)
  | found {buffer : List UInt8} {size : Nat} {response : Response}
    (called : decodeResponse crates buffer = .ok (.Some (size, response))) :
    ServesResponse crates rest left buffer rest (.decode :: left)

section ServesResponse

variable {rest : List (List UInt8)} {left : List ReadAction} {buffer following : List UInt8}
  {chunks : List (List UInt8)} {script : List ReadAction}

/-- The head is found when all of it is there, with what follows it left in the buffer and in the reads to come. -/
theorem ServesResponse.next (accepted : Accepted crates data head response) (delimits : crates.Delimits)
    (serves : ServesResponse crates rest left buffer chunks script)
    (stream : buffer ++ chunks.flatten = head ++ following) (framed : ResponseRead)
    (buffered : framed.buffer = buffer) :
    ∃ tail, framed.run crates script = (.ok (some (head.length, response)), ⟨framed.io, head ++ tail, left⟩) ∧
      tail ++ rest.flatten = following := by
  induction serves generalizing framed with
  | @waits buffer chunks script called later ih =>
    subst buffered
    obtain ⟨tail, run, split⟩ := ih stream { framed with script } rfl
    refine ⟨tail, ?_, split⟩
    rw [ResponseRead.run, called]
    exact run
  | @reads buffer chunk chunks script called later ih =>
    subst buffered
    rw [List.flatten_cons, ← List.append_assoc] at stream
    exact ih stream { framed with buffer := framed.buffer ++ chunk, script } rfl
  | @found buffer size other called =>
    obtain ⟨tail, rfl, split⟩ | ⟨_, waits⟩ := accepted.cut delimits stream
    case inl =>
      refine ⟨tail, ?_, split⟩
      rw [ResponseRead.run, buffered, accepted.whole delimits tail, ← buffered]
    case inr =>
      rw [waits] at called
      cases called

/-- However the stream is cut, the head is found behind one of its reads, whatever the reader does then. -/
theorem exists_servesResponse (accepted : Accepted crates data head response) (delimits : crates.Delimits)
    (stream : buffer ++ chunks.flatten = head ++ following) :
    ∃ tail rest, tail ++ rest.flatten = following ∧
      ∀ left, ∃ script, ServesResponse crates rest left buffer chunks script := by
  induction chunks generalizing buffer with
  | nil =>
    obtain ⟨tail, rfl, split⟩ | ⟨unread, _⟩ := accepted.cut delimits stream
    case inl => exact ⟨tail, [], split, fun _ => ⟨_, .found (accepted.whole delimits tail)⟩⟩
    case inr => exact absurd rfl unread
  | cons chunk chunks ih =>
    obtain ⟨tail, rfl, split⟩ | ⟨_, called⟩ := accepted.cut delimits stream
    case inl => exact ⟨tail, chunk :: chunks, split, fun _ => ⟨_, .found (accepted.whole delimits tail)⟩⟩
    case inr =>
      rw [List.flatten_cons, ← List.append_assoc] at stream
      obtain ⟨tail, rest, split, served⟩ := ih stream
      refine ⟨tail, rest, split, fun left => ?_⟩
      obtain ⟨script, later⟩ := served left
      exact ⟨_, .reads called later⟩

end ServesResponse

/-! ## The handshake and the reads behind it -/

/-- The reader behind a request that its stream has taken. -/
def ResponseRead.requested (io : Stream) (buf : List UInt8) (script : List ReadAction) : ResponseRead :=
  ⟨{ io.answered with log := io.log ++ [.wrote buf] ++ [.flushed] }, [], script⟩

/-- The request goes out to a stream that takes it, and then the response is read. -/
theorem clientHandshake_sent {request : Request} {buf : List UInt8}
    (opened : openHandshake crates request = .ok (data, buf)) (config : Option WebSocketConfig) {io : Stream}
    (obliging : io.Obliging) (script : List ReadAction) :
    clientHandshake crates request config io script =
      Lib.andThen ((ResponseRead.requested io buf script).next crates) fun arrived framed =>
        match arrived with
        | some (size, resp) => switch data config size resp framed
        | none => (.err (.Handshake (.Protocol .HandshakeIncomplete)), framed) := by
  let taken : Stream := { io with log := io.log ++ [.wrote buf], writes := io.writes.tail }
  have written : (⟨io, [], script⟩ : ResponseRead).onIo (Stream.writeAll buf) = (.ok (), ⟨taken, [], script⟩) := by
    unfold ResponseRead.onIo Stream.writeAll
    rw [obliging.1]
    rfl
  have flushed : (⟨taken, [], script⟩ : ResponseRead).onIo Stream.flush = (.ok (), .requested io buf script) := by
    unfold ResponseRead.onIo Stream.flush
    rw [obliging.2]
    rfl
  unfold clientHandshake
  rw [opened]
  dsimp only
  rw [written, Lib.andThen_ok, flushed, Lib.andThen_ok]

/-- A client that reads a stream without a handshake. -/
def clientAlone (io : Stream) (config : Option WebSocketConfig) (script : List ReadAction) : WebSocket :=
  { WebSocket.fromRawSocket io .Client config with frameCodec.inner.script := script }

section Handshake

variable {request : Request} {buf : List UInt8} {io : Stream} {following : List UInt8}
  {chunks rest : List (List UInt8)} {script left : List ReadAction}

/-- The handshake returns a socket that has in its buffer what has come behind the head, and no more. -/
theorem clientHandshake_ok (delimits : crates.Delimits) (opened : openHandshake crates request = .ok (data, buf))
    (config : Option WebSocketConfig) (obliging : io.Obliging) (accepted : Accepted crates data head response)
    (stream : chunks.flatten = head ++ following) (serves : ServesResponse crates rest left [] chunks script) :
    ∃ framed, clientHandshake crates request config io script =
      (.ok (framed.toWebSocket .Client config, response), framed) ∧
        framed.buffer ++ rest.flatten = following ∧ framed.script = left := by
  let sent := ResponseRead.requested io buf script
  obtain ⟨tail, run, split⟩ := serves.next accepted delimits stream sent rfl
  refine ⟨⟨sent.io, tail, left⟩, ?_, split, rfl⟩
  rw [clientHandshake_sent opened config obliging]
  show Lib.andThen (sent.run crates script) _ = _
  have within : ¬ (head ++ tail).length < head.length := by simp
  rw [run, Lib.andThen_ok]
  dsimp only [switch]
  rw [if_neg within, accepted.verified, List.drop_left]

variable {width : PointerWidth} {ending : FrameDecoder → List UInt8 → StreamEnd}

/-- A socket over the reader of the response and one without a handshake are twins, if the same is in front of them. -/
theorem toWebSocket_twins {config : Option WebSocketConfig} {framed : ResponseRead} {other : Stream}
    {alone : List (List UInt8)} (served : (framed.toWebSocket .Client config).ServedBy width ending rest)
    (servedAlone : (clientAlone other config script).ServedBy width ending alone)
    (same : framed.buffer ++ rest.flatten = alone.flatten) :
    ∃ frames last, WebSocket.Twins (.unlimited width) frames last (framed.toWebSocket .Client config)
      (clientAlone other config script) := by
  refine ⟨_, _, rfl, rfl, rfl, served.comes ⟨rfl, rfl, rfl⟩ rfl, ?_⟩
  have comes := servedAlone.comes ⟨rfl, rfl, rfl⟩ rfl
  rw [show (clientAlone other config script).frameCodec.inner.buffer = [] from rfl, List.nil_append, ← same] at comes
  exact comes

/-- However the stream is cut, there is something for the reader to do before the head is found and behind it. -/
theorem exists_served (delimits : crates.Delimits) (opened : openHandshake crates request = .ok (data, buf))
    (config : Option WebSocketConfig) (obliging : io.Obliging) (accepted : Accepted crates data head response)
    (stream : chunks.flatten = head ++ following) :
    ∃ rest left script, ServesResponse crates rest left [] chunks script ∧
      ∃ socket framed, clientHandshake crates request config io script = (.ok (socket, response), framed) ∧
        socket.ServedBy width ending rest := by
  have unread : [] ++ chunks.flatten = head ++ following := stream
  obtain ⟨tail, rest, split, served⟩ := exists_servesResponse accepted delimits unread
  obtain ⟨left, serves⟩ := exists_serves (clientAlone io config []).frameCodec.inner.decoder tail rest
  obtain ⟨script, servesResponse⟩ := served left
  obtain ⟨framed, returned, behind, rfl⟩ :=
    clientHandshake_ok delimits opened config obliging accepted stream servesResponse
  obtain rfl := List.append_cancel_right (split.trans behind.symm)
  exact ⟨rest, framed.script, script, servesResponse, _, _, returned, serves⟩

/-- **The client switches from the handshake to frames without a byte lost or read twice.**  However the reads of the
stream cut the head of an accepted response and what follows it, the handshake returns a socket, and successive
reads of it return the messages and then the error that a client returns on what follows alone. -/
theorem handover_lossless (delimits : crates.Delimits) (opened : openHandshake crates request = .ok (data, buf))
    (config : Option WebSocketConfig) (obliging : io.Obliging) (accepted : Accepted crates data head response)
    (stream : chunks.flatten = head ++ following) (serves : ServesResponse crates rest left [] chunks script) :
    ∃ socket framed, clientHandshake crates request config io script = (.ok (socket, response), framed) ∧
      ∀ width ending, socket.ServedBy width ending rest →
        ∀ other alone actions, alone.flatten = following →
          (clientAlone other config actions).ServedBy width ending alone →
            ∀ answers, socket.reads (.unlimited width) answers =
              (clientAlone other config actions).reads (.unlimited width) answers := by
  obtain ⟨framed, returned, behind, _⟩ := clientHandshake_ok delimits opened config obliging accepted stream serves
  refine ⟨_, framed, returned, fun width ending served other alone actions whole servedAlone answers => ?_⟩
  obtain ⟨frames, last, twins⟩ := toWebSocket_twins served servedAlone (behind.trans whole.symm)
  exact WebSocket.reads_eq twins answers

end Handshake

/-- What a response to `sampleRequest` is verified against. -/
def sampleVerifyData : VerifyData := ⟨ascii "s3pPLMBiTxaQ9kYGzzhZRbK+xOo=", none⟩

/-- The head of a response to `sampleRequest`. -/
def sampleHead : List UInt8 :=
  ascii ("HTTP/1.1 101 Switching Protocols\r\nConnection: Upgrade\r\nUpgrade: websocket\r\n" ++
    "Sec-WebSocket-Accept: s3pPLMBiTxaQ9kYGzzhZRbK+xOo=\r\n\r\n")

def sampleResponse : Response where
  status := .SWITCHING_PROTOCOLS
  version := .HTTP_11
  headers := headerMapOf
    [("Connection", "Upgrade"), ("Upgrade", "websocket"), ("Sec-WebSocket-Accept", "s3pPLMBiTxaQ9kYGzzhZRbK+xOo=")]
  body := none

theorem sampleHead_accepted :
    Accepted (referenceCrates fun _ => sampleHash) sampleVerifyData sampleHead sampleResponse where
  decoded := by decide +kernel
  verified := by decide +kernel

theorem sampleRequest_opened :
    ∃ buf, openHandshake (referenceCrates fun _ => sampleHash) sampleRequest = .ok (sampleVerifyData, buf) := by
  have opened : (openHandshake (referenceCrates fun _ => sampleHash) sampleRequest).toOption.map Prod.fst =
      some sampleVerifyData := by
    decide +kernel
  cases outcome : openHandshake (referenceCrates fun _ => sampleHash) sampleRequest with
  | error =>
    rw [outcome] at opened
    cases opened
  | ok result =>
    rw [outcome] at opened
    injection opened with data
    exact ⟨result.2, by rw [← data]⟩

/-- The head comes in two reads.  The second brings the first byte of a frame as well, and the third the rest of it. -/
def sampleReads : List (List UInt8) := [sampleHead.take 40, sampleHead.drop 40 ++ [0x81], [0x01, 0x61]]

/-- What the reader does behind the head. -/
def sampleLeft : List ReadAction := [.fill [0x01, 0x61], .decode, .eof]

def sampleScript : List ReadAction :=
  [.fill (sampleHead.take 40), .decode, .fill (sampleHead.drop 40 ++ [0x81]), .decode] ++ sampleLeft

theorem sampleReads_flatten : sampleReads.flatten = sampleHead ++ [0x81, 0x01, 0x61] := by decide +kernel

theorem sampleReads_served :
    ServesResponse (referenceCrates fun _ => sampleHash) [[0x01, 0x61]] sampleLeft [] sampleReads sampleScript := by
  have cut : sampleHead.take 40 ++ (sampleHead.drop 40 ++ [0x81]) = sampleHead ++ [0x81] := by
    rw [← List.append_assoc, List.take_append_drop]
  have begun : decodeResponse (referenceCrates fun _ => sampleHash) (sampleHead.take 40) = .ok .Insufficient := by
    decide +kernel
  refine .reads (by decide +kernel) ?_
  rw [List.nil_append]
  refine .waits begun (.reads begun ?_)
  rw [cut]
  exact .found (sampleHead_accepted.whole (referenceCrates_delimits _) [0x81])

/-- The first byte of the frame is in the buffer of the socket, and the rest is to come. -/
theorem sampleSocket_served {socket : WebSocket} {framed : ResponseRead}
    (returned : clientHandshake (referenceCrates fun _ => sampleHash) sampleRequest none .new sampleScript =
      (.ok (socket, sampleResponse), framed)) : socket.ServedBy .w64 (fun _ _ => .eof) [[0x01, 0x61]] := by
  obtain ⟨buf, opened⟩ := sampleRequest_opened
  have obliging : Stream.new.Obliging := by decide
  obtain ⟨reader, returns, behind, script⟩ := clientHandshake_ok (referenceCrates_delimits _) opened none obliging
    sampleHead_accepted sampleReads_flatten sampleReads_served
  rw [returned] at returns
  cases returns
  have stream : framed.buffer ++ [0x01, 0x61] = [0x81] ++ [0x01, 0x61] := behind
  have buffer : framed.buffer = [0x81] := List.append_cancel_right stream
  show Serves .w64 _ (clientAlone .new none []).frameCodec.inner.decoder framed.buffer _ framed.script
  rw [buffer, script]
  exact .reads rfl (.frame rfl (.ends rfl))

theorem handover_lossless_sample :
    ∃ socket framed,
      clientHandshake (referenceCrates fun _ => sampleHash) sampleRequest none .new sampleScript =
        (.ok (socket, sampleResponse), framed) ∧
      socket.reads (.unlimited .w64) (List.replicate 2 ⟨[], [], [], []⟩) =
        [.ok (some (.Text ⟨ascii "a"⟩)), .err (.Protocol .ResetWithoutClosingHandshake)] := by
  obtain ⟨buf, opened⟩ := sampleRequest_opened
  have obliging : Stream.new.Obliging := by decide
  obtain ⟨socket, framed, returned, same⟩ := handover_lossless (referenceCrates_delimits _) opened none obliging
    sampleHead_accepted sampleReads_flatten sampleReads_served
  have alone : (clientAlone .new none [.fill [0x81, 0x01, 0x61], .decode, .eof]).ServedBy .w64 (fun _ _ => .eof)
      [[0x81, 0x01, 0x61]] := .reads rfl (.frame rfl (.ends rfl))
  refine ⟨socket, framed, returned, ?_⟩
  rw [same _ _ (sampleSocket_served returned) .new _ _ rfl alone]
  decide +kernel

end Client

end MonoioTungstenite
