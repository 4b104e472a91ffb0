import MonoioTungstenite.Concord
import MonoioTungstenite.Logged
import MonoioTungstenite.ServerHandshake

/-! # From the handshake to the last message

Both handshakes over two pipes, however the bytes are cut into reads, and then turns in any order: neither end makes the
other fail, and the messages arrive in order, although the client may have read the first frames together with the
response (`established_ends_agree`).  The ends follow two new ones without a handshake, with the bytes of the handshake
in front of what their streams have seen. -/

namespace MonoioTungstenite

open WebSocket

/-- The socket with these bytes read and not decoded yet. -/
def WebSocket.holding (tail : List UInt8) (socket : WebSocket) : WebSocket :=
  { socket with frameCodec.inner.buffer := tail, frameCodec.inner.received := tail }

/-- The handshake of the client, with what its reader has behind the head of the response. -/
theorem Client.clientHandshake_handed {crates : Crates} {request : Request} {data : VerifyData} {buf head : List UInt8}
    {response : Response} (delimits : crates.Delimits) (opened : openHandshake crates request = .ok (data, buf))
    (config : Option WebSocketConfig) {io : Stream} (obliging : io.Obliging)
    (accepted : Accepted crates data head response) {following : List UInt8} {chunks rest : List (List UInt8)}
    {script left : List ReadAction} (stream : chunks.flatten = head ++ following)
    (serves : ServesResponse crates rest left [] chunks script) :
    ∃ tail, clientHandshake crates request config io script =
        (.ok (ResponseRead.toWebSocket .Client config ⟨(ResponseRead.requested io buf []).io, tail, left⟩, response),
          ⟨(ResponseRead.requested io buf []).io, tail, left⟩) ∧
      tail ++ rest.flatten = following := by
  obtain ⟨tail, run, split⟩ := serves.next accepted delimits stream (.requested io buf script) rfl
  refine ⟨tail, ?_, split⟩
  rw [clientHandshake_sent opened config obliging]
  show Lib.andThen ((ResponseRead.requested io buf script).run crates script) _ = _
  have within : ¬ (head ++ tail).length < head.length := by simp
  rw [run, Lib.andThen_ok]
  dsimp only [switch]
  rw [if_neg within, accepted.verified, List.drop_left]
  rfl

namespace Network

/-- `Fair`, for ends whose streams have taken these bytes before the first frame. -/
structure FairFrom (before : Role → List UInt8) (width : Role → PointerWidth) (network : Network)
    (turn : Role × Call) : Prop where
  asked : SuitsOp (width turn.1.other) (network turn.1.other).config turn.2.op
  calm : turn.2.Calm
  returns : (step width network turn).1 ≠ .pending
  fromWire : FromWire turn.2.reader
  unfailing : Unfailing turn.2.reader
  pipe : before turn.1.other ++ ((step width network turn).2 turn.1).frameCodec.inner.received <+:
    (network turn.1.other).frameCodec.io.accepted
  eof : .eof ∈ turn.2.reader → (network turn.1.other).state = .Terminated ∧
    before turn.1.other ++ ((step width network turn).2 turn.1).frameCodec.inner.received =
      (network turn.1.other).frameCodec.io.accepted ∧
    ((step width network turn).2 turn.1).frameCodec.inner.Drained (width turn.1)

/-! ## Ends with a past -/

/-- The ends of the second network are those of the first one, but for the answers laid out for the next operation, with
these events in front of what their streams have seen. -/
def Follows (earlier : Role → List StreamEvent) (network other : Network) : Prop :=
  ∀ role call, install call (other role) = (install call (network role)).logged (earlier role)

section Follows

variable {earlier : Role → List StreamEvent} {network other : Network}

/-- What the answers laid out for an operation have no part in is the same, but for the past. -/
theorem Follows.field {α : Type} (follows : Follows earlier network other) (field : WebSocket → α)
    (kept : ∀ socket, field (install ⟨.read, [], [], [], [], []⟩ socket) = field socket) (role : Role) :
    field (other role) = field ((network role).logged (earlier role)) := by
  rw [← kept (other role), follows, ← kept ((network role).logged (earlier role))]
  rfl

theorem Follows.state (follows : Follows earlier network other) (role : Role) :
    (other role).state = (network role).state := follows.field WebSocket.state (fun _ => rfl) role

theorem Follows.config (follows : Follows earlier network other) (role : Role) :
    (other role).config = (network role).config := follows.field WebSocket.config (fun _ => rfl) role

theorem Follows.received (follows : Follows earlier network other) (role : Role) :
    (other role).frameCodec.inner.received = (network role).frameCodec.inner.received :=
  follows.field (fun socket => socket.frameCodec.inner.received) (fun _ => rfl) role

theorem Follows.accepted (follows : Follows earlier network other) (role : Role) :
    (other role).frameCodec.io.accepted =
      (earlier role).flatMap StreamEvent.bytes ++ (network role).frameCodec.io.accepted := by
  rw [← Stream.accepted_logged]
  exact follows.field (fun socket => socket.frameCodec.io.accepted) (fun _ => rfl) role

theorem Follows.drained (follows : Follows earlier network other) (role : Role) (width : PointerWidth) :
    (other role).frameCodec.inner.Drained width = (network role).frameCodec.inner.Drained width :=
  follows.field (fun socket => socket.frameCodec.inner.Drained width) (fun _ => rfl) role

/-- Ends with a past do what they do without it. -/
theorem follows_simulates (earlier : Role → List StreamEvent) (width : Role → PointerWidth) :
    Lib.Simulates (step width) (step width) (Follows earlier) := by
  intro network other turn follows
  have stepped : WebSocket.step (.unlimited (width turn.1)) (other turn.1) turn.2 =
      (WebSocket.step (.unlimited (width turn.1)) (network turn.1) turn.2).map id (logged (earlier turn.1)) := by
    rw [WebSocket.step, follows]
    exact perform_logged (earlier turn.1) _ turn.2.op _
  simp only [step, stepped]
  refine ⟨rfl, fun role call => ?_⟩
  by_cases moving : role = turn.1
  · subst moving
    simp only [Function.update_self]
    rfl
  · simp only [Function.update_of_ne moving]
    exact follows role call

theorem Follows.fair {width : Role → PointerWidth} {turn : Role × Call} (follows : Follows earlier network other) :
    Fair width network turn ↔ FairFrom (fun role => (earlier role).flatMap StreamEvent.bytes) width other turn := by
  obtain ⟨reply, after⟩ := follows_simulates earlier width network other turn follows
  constructor
  · rintro ⟨asked, calm, returns, fromWire, unfailing, pipe, eof⟩
    refine ⟨?_, calm, reply ▸ returns, fromWire, unfailing, ?_, fun ended => ?_⟩
    · rw [follows.config]
      exact asked
    · rw [follows.accepted, after.received, List.prefix_append_right_inj]
      exact pipe
    · obtain ⟨terminated, whole, drained⟩ := eof ended
      rw [follows.state, follows.accepted, after.received, after.drained, whole]
      exact ⟨terminated, rfl, drained⟩
  · rintro ⟨asked, calm, returns, fromWire, unfailing, pipe, eof⟩
    rw [follows.config] at asked
    rw [follows.state] at eof
    rw [follows.accepted, after.received] at pipe eof
    rw [after.drained] at eof
    rw [List.prefix_append_right_inj] at pipe
    refine ⟨asked, calm, reply ▸ returns, fromWire, unfailing, pipe, fun ended => ?_⟩
    obtain ⟨terminated, whole, drained⟩ := eof ended
    exact ⟨terminated, List.append_cancel_left whole, drained⟩

theorem Follows.meets {width : Role → PointerWidth} {turns : List (Role × Call)}
    (follows : Follows earlier network other) :
    Lib.Meets (step width) (Fair width) network turns ↔
      Lib.Meets (step width) (FairFrom (fun role => (earlier role).flatMap StreamEvent.bytes) width) other turns :=
  have conditions : ∀ network other turn, Follows earlier network other →
      (Fair width network turn ↔ FairFrom (fun role => (earlier role).flatMap StreamEvent.bytes) width other turn) :=
    fun _ _ _ follows => follows.fair
  (follows_simulates earlier width).meets_iff conditions follows

end Follows

/-! ## Ends in concord -/

/-- No read has refused what had arrived, and both ends are in concord. -/
structure Concord (width : Role → PointerWidth) (configs : Role → WebSocketConfig)
    (past : List ((Role × Call) × Reply)) (network : Network) : Prop where
  noRefusal : ∀ turn reply, (turn, reply) ∈ past → turn.2.op = .read → ∀ error, reply = .err error → ¬ Refusal error
  ends : ∀ role, InConcord width configs past network role

section Concord

variable {width : Role → PointerWidth} {configs : Role → WebSocketConfig} {past : List ((Role × Call) × Reply)}
  {network : Network}

theorem concord_joined (width : Role → PointerWidth) (configs : Role → Option WebSocketConfig) :
    Concord width (fun role => (configs role).getD .default) [] (joined configs) :=
  ⟨fun _ _ nothing => absurd nothing List.not_mem_nil, inConcord_joined width configs⟩

theorem Concord.turn (roomy : ∀ role, Roomy (configs role)) (concord : Concord width configs past network)
    {turn : Role × Call} (fair : Fair width network turn) :
    Concord width configs (past ++ [(turn, (step width network turn).1)]) (step width network turn).2 := by
  refine ⟨?_, step_inConcord roomy concord.ends fair⟩
  intro earlier reply found
  rw [List.mem_append, List.mem_singleton] at found
  cases found with
  | inl before => exact concord.noRefusal earlier reply before
  | inr now =>
    cases now
    exact (step_turned roomy concord.ends fair).noRefusal

/-- Fair turns keep the ends in concord. -/
theorem Concord.run (roomy : ∀ role, Roomy (configs role)) (concord : Concord width configs past network)
    {turns : List (Role × Call)} (fair : Lib.Meets (step width) (Fair width) network turns) :
    Concord width configs (past ++ Lib.trace (step width) network turns) (Lib.final (step width) network turns) :=
  have preserved : ∀ past network turn, Concord width configs past network → Fair width network turn →
      Concord width configs (past ++ [(turn, (step width network turn).1)]) (step width network turn).2 :=
    fun _ _ _ concord fair => concord.turn roomy fair
  Lib.trace_invariant preserved concord fair

theorem Concord.agree (concord : Concord width configs past network) : EndsAgree past :=
  ⟨concord.noRefusal, InConcord.inOrder concord.ends⟩

/-- A client that has read the first bytes that the server has sent can take the place of one that has read none. -/
theorem inConcord_handedOver {config : Option WebSocketConfig}
    (concord : ∀ role, InConcord width configs past network role)
    (fresh : network .Client = fromRawSocket .new .Client config) {tail : List UInt8}
    (arrived : tail <+: (network .Server).frameCodec.io.accepted) (role : Role) :
    InConcord width configs past
      (Function.update network .Client ((fromRawSocket .new .Client config).holding tail)) role := by
  obtain ⟨wellFormed, stands, sends, ⟨behind, ahead, receives⟩, queued⟩ := concord role
  cases role with
  | Server =>
    rw [show Role.other .Server = .Client from rfl, fresh] at receives
    constructor
    case wellFormed => exact wellFormed
    case stands => exact stands
    case sends => exact sends
    case receives =>
      exact ⟨behind, ahead, receives.queued, receives.between, receives.part, receives.messages, receives.sees⟩
    case queued => exact queued
  | Client =>
    rw [fresh] at wellFormed stands sends queued
    constructor
    case wellFormed => exact wellFormed
    case stands => exact ⟨stands.sameRole, stands.sameConfig, stands.whole, stands.decoder⟩
    case sends => exact ⟨sends.wire, sends.out, ⟨sends.queue.last, sends.queue.active⟩, sends.closing, sends.sendable⟩
    case receives =>
      rw [fresh] at receives
      obtain rfl := receives.between.nothing_behind rfl
      refine ⟨[], (network .Server).frameCodec.queued, rfl, .fresh rfl rfl rfl, arrived, receives.messages, fun _ => ⟨?_, nofun⟩⟩
      rintro ⟨frame, nothing, _⟩
      cases nothing
    case queued => exact queued

theorem Concord.handedOver {config : Option WebSocketConfig} (concord : Concord width configs past network)
    (fresh : network .Client = fromRawSocket .new .Client config) {tail : List UInt8}
    (arrived : tail <+: (network .Server).frameCodec.io.accepted) :
    Concord width configs past (Function.update network .Client ((fromRawSocket .new .Client config).holding tail)) :=
  ⟨concord.noRefusal, inConcord_handedOver concord.ends fresh arrived⟩

end Concord

/-! ## Both handshakes -/

open Client (ResponseRead)

/-- A socket behind a handshake follows a new one that has read as much. -/
theorem install_toWebSocket (framed : ResponseRead) (role : Role) (config : Option WebSocketConfig) (call : Call) :
    install call (framed.toWebSocket role config) =
      (install call ((fromRawSocket .new role config).holding framed.buffer)).logged framed.io.log := by
  have past : framed = { framed with io.log := framed.io.log ++ [] } := by rw [List.append_nil]
  conv_lhs => rw [past]
  rfl

/-- What the streams of both ends have seen when their handshakes are over, with this request and this answer. -/
def handshakes (clientIo serverIo : Stream) (sent answer : List UInt8) : Role → List StreamEvent
  | .Client => clientIo.log ++ [.wrote sent] ++ [.flushed]
  | .Server => serverIo.log ++ [.wrote answer] ++ [.flushed]

/-- The bytes that the streams have taken when the handshakes are over. -/
def handshakeBytes (clientIo serverIo : Stream) (sent answer : List UInt8) : Role → List UInt8 :=
  fun role => (handshakes clientIo serverIo sent answer role).flatMap StreamEvent.bytes

/-- A socket behind a handshake that has written this, with these bytes in its buffer and these actions to come. -/
def opened (config : Option WebSocketConfig) (io : Stream) (written tail : List UInt8) (left : List ReadAction)
    (role : Role) : WebSocket :=
  ResponseRead.toWebSocket role config ⟨(ResponseRead.requested io written []).io, tail, left⟩

/-- The client of the second network takes the place of the one that waits for the response, and so does a new one that
has read as much. -/
theorem Follows.handed {clientIo serverIo : Stream} {sent answer : List UInt8} {network later : Network}
    (follows : Follows (handshakes clientIo serverIo sent answer) network later) (config : Option WebSocketConfig)
    (tail : List UInt8) (left : List ReadAction) :
    Follows (handshakes clientIo serverIo sent answer)
      (Function.update network .Client ((fromRawSocket .new .Client config).holding tail))
      (Function.update later .Client (opened config clientIo sent tail left .Client)) := by
  intro role call
  cases role with
  | Client => exact install_toWebSocket ⟨_, tail, left⟩ .Client config call
  | Server => exact follows .Server call

/-- The turns of one end leave the other end as it is. -/
theorem final_waits (width : Role → PointerWidth) {role : Role} (network : Network) {turns : List (Role × Call)}
    (others : ∀ turn ∈ turns, turn.1 ≠ role) : Lib.final (step width) network turns role = network role := by
  induction turns generalizing network with
  | nil => rfl
  | cons turn turns ih =>
    rw [List.forall_mem_cons] at others
    rw [Lib.final_cons, ih _ others.2]
    exact Function.update_of_ne others.1.symm ..

section Established

variable {crates : Crates} {callback : Server.Callback} {request : Request} {data : Client.VerifyData}
  {sent answer : List UInt8} {response : Client.Response} {clientIo serverIo : Stream}
  {configs : Role → Option WebSocketConfig} {width : Role → PointerWidth}

/-- The client, which has written its request and waits for the response, and the server behind its handshake. -/
def begun (clientIo serverIo : Stream) (sent answer : List UInt8) (configs : Role → Option WebSocketConfig)
    (left : List ReadAction) : Network
  | .Client => opened (configs .Client) clientIo sent [] [] .Client
  | .Server => opened (configs .Server) serverIo answer [] left .Server

/-- The ends follow two new ones. -/
theorem follows_begun (clientIo serverIo : Stream) (sent answer : List UInt8)
    (configs : Role → Option WebSocketConfig) (left : List ReadAction) :
    Follows (handshakes clientIo serverIo sent answer) (joined configs)
      (begun clientIo serverIo sent answer configs left) := by
  intro role call
  cases role with
  | Client => exact install_toWebSocket (.requested clientIo sent []) .Client (configs .Client) call
  | Server => exact install_toWebSocket (.requested serverIo answer left) .Server (configs .Server) call

/-- Both handshakes end with a socket, and from there on the ends follow two new ones, of which the client has read as much
as it has behind the response. -/
theorem established (delimits : crates.Delimits) (delimitsRequests : Server.DelimitsRequests crates)
    (requested : Client.openHandshake crates request = .ok (data, sent))
    (answered : Server.serverHandshake crates callback sent = (answer, .ok ()))
    (accepted : Client.Accepted crates data answer response) (width : Role → PointerWidth)
    (configs : Role → Option WebSocketConfig) (clientObliging : clientIo.Obliging) (serverObliging : serverIo.Obliging)
    {asks restOfAsks : List (List UInt8)} {askScript leftOfAsks : List ReadAction} (asked : asks.flatten = sent)
    (servesAsk : Server.ServesRequest crates restOfAsks leftOfAsks [] asks askScript) :
    (Server.serverHandshakeOn crates callback (configs .Server) serverIo askScript).1 =
        .ok (opened (configs .Server) serverIo answer [] leftOfAsks .Server) ∧
      ∀ {early later},
        Lib.final (step width) (begun clientIo serverIo sent answer configs leftOfAsks) early = later →
        ∀ {chunks rest left script following}, chunks.flatten = answer ++ following →
          Client.ServesResponse crates rest left [] chunks script →
          serverIo.accepted ++ chunks.flatten <+: (later .Server).frameCodec.io.accepted →
          ∃ tail, tail ++ rest.flatten = following ∧
            (Client.clientHandshake crates request (configs .Client) clientIo script).1 =
              .ok (opened (configs .Client) clientIo sent tail left .Client, response) ∧
            tail <+: (Lib.final (step width) (joined configs) early .Server).frameCodec.io.accepted ∧
            Follows (handshakes clientIo serverIo sent answer)
              (Function.update (Lib.final (step width) (joined configs) early) .Client
                ((fromRawSocket .new .Client (configs .Client)).holding tail))
              (Function.update later .Client (opened (configs .Client) clientIo sent tail left .Client)) := by
  obtain ⟨asking, created, resp, requests, creates, agrees, rfl⟩ := Server.serverHandshake_agreed answered
  obtain ⟨unread, split, _, run⟩ := Server.serverHandshakeOn_found delimitsRequests requests creates agrees
    (configs .Server) serverObliging (asked.trans (List.append_nil sent).symm) servesAsk
  obtain rfl : unread = [] := (List.append_eq_nil_iff.mp split).1
  rw [if_pos rfl] at run
  refine ⟨congrArg Prod.fst run, ?_⟩
  intro early later final chunks rest left script following stream serves pipe
  -- the ends follow two new ones, from the first turn of the server
  have followsLater := (follows_simulates (handshakes clientIo serverIo sent (Server.generateResponse crates resp))
    width).final (follows_begun clientIo serverIo sent (Server.generateResponse crates resp) configs leftOfAsks) early
  rw [final] at followsLater
  -- the client has its first bytes from its handshake
  obtain ⟨tail, returns, behind⟩ :=
    Client.clientHandshake_handed delimits requested (configs .Client) clientObliging accepted stream serves
  refine ⟨tail, behind, congrArg Prod.fst returns, ?_, followsLater.handed (configs .Client) tail left⟩
  rw [followsLater.accepted, stream, ← behind] at pipe
  have taken : (handshakes clientIo serverIo sent (Server.generateResponse crates resp) .Server).flatMap
      StreamEvent.bytes = serverIo.accepted ++ Server.generateResponse crates resp := by
    simp [handshakes, Stream.accepted, StreamEvent.bytes]
  rw [taken, List.append_assoc, List.prefix_append_right_inj, List.prefix_append_right_inj] at pipe
  exact (List.prefix_append tail _).trans pipe

/-- **A connection that both handshakes have established delivers every message in order, and neither end makes the
other fail.**  The server takes a request that it agrees to, however the reads cut it, and goes on at once; when the
client has read the response, and whatever else has come with it, the ends take turns in any order.  No read refuses
what has arrived, in no turn behind the handshake of the server, and the texts, data and pings that an end returns are
the first of those that the other end has written. -/
theorem established_ends_agree (delimits : crates.Delimits) (delimitsRequests : Server.DelimitsRequests crates)
    (requested : Client.openHandshake crates request = .ok (data, sent))
    (answered : Server.serverHandshake crates callback sent = (answer, .ok ()))
    (accepted : Client.Accepted crates data answer response) (width : Role → PointerWidth)
    (configs : Role → Option WebSocketConfig) (roomy : ∀ role, Roomy ((configs role).getD .default))
    (clientObliging : clientIo.Obliging) (serverObliging : serverIo.Obliging) {asks restOfAsks : List (List UInt8)}
    {askScript leftOfAsks : List ReadAction} (asked : asks.flatten = sent)
    (servesAsk : Server.ServesRequest crates restOfAsks leftOfAsks [] asks askScript) :
    (Server.serverHandshakeOn crates callback (configs .Server) serverIo askScript).1 =
        .ok (opened (configs .Server) serverIo answer [] leftOfAsks .Server) ∧
      ∀ {early later}, (∀ turn ∈ early, turn.1 ≠ .Client) →
        Lib.Meets (step width) (FairFrom (handshakeBytes clientIo serverIo sent answer) width)
          (begun clientIo serverIo sent answer configs leftOfAsks) early →
        Lib.final (step width) (begun clientIo serverIo sent answer configs leftOfAsks) early = later →
        ∀ {chunks rest left script following}, chunks.flatten = answer ++ following →
          Client.ServesResponse crates rest left [] chunks script →
          serverIo.accepted ++ chunks.flatten <+: (later .Server).frameCodec.io.accepted →
          ∃ tail, tail ++ rest.flatten = following ∧
            (Client.clientHandshake crates request (configs .Client) clientIo script).1 =
              .ok (opened (configs .Client) clientIo sent tail left .Client, response) ∧
            ∀ turns,
              Lib.Meets (step width) (FairFrom (handshakeBytes clientIo serverIo sent answer) width)
                (Function.update later .Client (opened (configs .Client) clientIo sent tail left .Client)) turns →
              EndsAgree (Lib.trace (step width) (begun clientIo serverIo sent answer configs leftOfAsks) early ++
                Lib.trace (step width)
                  (Function.update later .Client (opened (configs .Client) clientIo sent tail left .Client)) turns) := by
  obtain ⟨opens, runs⟩ := established delimits delimitsRequests requested answered accepted width configs clientObliging
    serverObliging asked servesAsk
  refine ⟨opens, ?_⟩
  intro early later others fair final chunks rest left script following stream serves pipe
  obtain ⟨tail, behind, returns, arrived, followsHanded⟩ := runs final stream serves pipe
  have simulates := follows_simulates (handshakes clientIo serverIo sent answer) width
  have follows := follows_begun clientIo serverIo sent answer configs leftOfAsks
  have concord := (concord_joined width configs).run roomy (follows.meets.mpr fair)
  have handed := concord.handedOver (final_waits width (joined configs) others) arrived
  refine ⟨tail, behind, returns, fun turns fairTurns => ?_⟩
  have agree := (handed.run roomy (followsHanded.meets.mpr fairTurns)).agree
  rw [List.nil_append, simulates.trace follows early, simulates.trace followsHanded turns] at agree
  exact agree

end Established

/-- The request that the client writes. -/
def sampleSent : List UInt8 :=
  Lib.ascii ("GET /chat HTTP/1.1\r\nHost: localhost:9001\r\nConnection: keep-alive, upgrade\r\nUpgrade: WebSocket\r\n" ++
    "Sec-WebSocket-Version: 13\r\nSec-WebSocket-Key: dGhlIHNhbXBsZSBub25jZQ==\r\nOrigin: https://localhost\r\n\r\n")

/-- The answer of the server. -/
def sampleAnswered : List UInt8 :=
  Lib.ascii ("HTTP/1.1 101 Switching Protocols\r\nconnection: Upgrade\r\nupgrade: websocket\r\n" ++
    "sec-websocket-accept: s3pPLMBiTxaQ9kYGzzhZRbK+xOo=\r\n\r\n")

/-- The server greets the client. -/
def greeting : List (Role × Call) :=
  [(.Server, .reading (.write (.Text ⟨[0x68, 0x69]⟩)) []), (.Server, .reading .flush [])]

/-- The last byte of the greeting comes when the client reads. -/
def greeted : List (Role × Call) := [(.Client, .reading .read [.decode, .fill [0x69], .decode])]

theorem sample_requested : Client.openHandshake (referenceCrates fun _ => sampleHash) sampleRequest =
    .ok (Client.sampleVerifyData, sampleSent) := by decide +kernel

theorem sample_answered : Server.serverHandshake (referenceCrates fun _ => sampleHash) Server.NoCallback sampleSent =
    (sampleAnswered, .ok ()) := by decide +kernel

theorem sample_accepted : Client.Accepted (referenceCrates fun _ => sampleHash) Client.sampleVerifyData sampleAnswered
    Client.sampleResponse := ⟨by decide +kernel, by decide +kernel⟩

/-- The request comes in one piece. -/
theorem sample_asks : Server.ServesRequest (referenceCrates fun _ => sampleHash) [] [] [] [sampleSent]
    [.fill sampleSent, .decode] := by
  have unasked : Server.decodeRequest (referenceCrates fun _ => sampleHash) [] = .ok .Insufficient := by decide +kernel
  obtain ⟨_, _, _, requests, _⟩ := Server.serverHandshake_agreed sample_answered
  refine .reads unasked ?_
  rw [List.nil_append]
  exact .found requests

/-- The answer comes with the greeting, but for its last byte. -/
theorem sample_responds : Client.ServesResponse (referenceCrates fun _ => sampleHash) [] [] []
    [sampleAnswered ++ [0x81, 2, 0x68]] [.fill (sampleAnswered ++ [0x81, 2, 0x68]), .decode] := by
  have unread : Client.decodeResponse (referenceCrates fun _ => sampleHash) [] = .ok .Insufficient := by decide +kernel
  refine .reads unread ?_
  rw [List.nil_append]
  exact .found (sample_accepted.whole (referenceCrates_delimits _) [0x81, 2, 0x68])

theorem sample_begun : Follows (handshakes .new .new sampleSent sampleAnswered) (joined fun _ => none)
    (begun .new .new sampleSent sampleAnswered (fun _ => none) []) :=
  follows_begun .new .new sampleSent sampleAnswered (fun _ => none) []

/-- The turns are fair because those of the new ends that they follow are. -/
theorem greeting_fair : Lib.Meets (step fun _ => .w64)
    (FairFrom (handshakeBytes .new .new sampleSent sampleAnswered) fun _ => .w64)
    (begun .new .new sampleSent sampleAnswered (fun _ => none) []) greeting := by
  have quiet : ∀ op reader, (Call.reading op reader).Calm := fun op reader => Call.calm_of_nil rfl rfl rfl
  exact (@Follows.meets _ _ _ (fun _ => .w64) greeting sample_begun).mp
    ⟨.of_bytes ⟨by decide, by decide, by decide⟩ (quiet _ _) (by decide) rfl (by decide),
      .of_bytes trivial (quiet _ _) (by decide) rfl (by decide), trivial⟩

theorem greeting_servers : ∀ turn ∈ greeting, turn.1 ≠ .Client := by simp [greeting]

/-- What comes with the answer is a beginning of what the server has sent. -/
theorem greeting_arrived : Stream.new.accepted ++ [sampleAnswered ++ [0x81, 2, 0x68]].flatten <+:
    ((Lib.final (step fun _ => .w64) (begun .new .new sampleSent sampleAnswered (fun _ => none) []) greeting)
      .Server).frameCodec.io.accepted := by
  have followsLater := (follows_simulates _ fun _ => .w64).final sample_begun greeting
  have taken : (handshakes .new .new sampleSent sampleAnswered .Server).flatMap StreamEvent.bytes = sampleAnswered := by
    simp [handshakes, StreamEvent.bytes, Stream.new]
  have unwritten : Stream.new.accepted = [] := rfl
  rw [followsLater.accepted, taken, unwritten, List.nil_append, List.flatten_singleton, List.prefix_append_right_inj]
  decide

theorem established_ends_agree_greeting :
    (Server.serverHandshakeOn (referenceCrates fun _ => sampleHash) Server.NoCallback none .new
        [.fill sampleSent, .decode]).1 = .ok (opened none .new sampleAnswered [] [] .Server) ∧
      (Client.clientHandshake (referenceCrates fun _ => sampleHash) sampleRequest none .new
        [.fill (sampleAnswered ++ [0x81, 2, 0x68]), .decode]).1 =
          .ok (opened none .new sampleSent [0x81, 2, 0x68] [] .Client, Client.sampleResponse) ∧
      EndsAgree (Lib.trace (step fun _ => .w64) (begun .new .new sampleSent sampleAnswered (fun _ => none) []) greeting ++
        Lib.trace (step fun _ => .w64) (Function.update (Lib.final (step fun _ => .w64)
          (begun .new .new sampleSent sampleAnswered (fun _ => none) []) greeting) .Client
            (opened none .new sampleSent [0x81, 2, 0x68] [] .Client)) greeted) := by
  have quiet : ∀ op reader, (Call.reading op reader).Calm := fun op reader => Call.calm_of_nil rfl rfl rfl
  have obliging : Stream.new.Obliging := by decide
  have asked : [sampleSent].flatten = sampleSent := List.append_nil _
  obtain ⟨opens, runs⟩ := established_ends_agree (referenceCrates_delimits _)
    (Server.referenceCrates_delimitsRequests _) sample_requested sample_answered sample_accepted (fun _ => .w64)
    (fun _ => none) (fun _ => by decide) obliging obliging asked sample_asks
  have followsLater := (follows_simulates _ fun _ => .w64).final sample_begun greeting
  have stream : [sampleAnswered ++ [0x81, 2, 0x68]].flatten = sampleAnswered ++ [0x81, 2, 0x68] := List.append_nil _
  obtain ⟨tail, behind, returns, agree⟩ :=
    @runs greeting _ greeting_servers greeting_fair rfl _ _ _ _ _ stream sample_responds greeting_arrived
  obtain rfl : tail = [0x81, 2, 0x68] := (List.append_nil tail).symm.trans behind
  have followsHanded := followsLater.handed none [0x81, 2, 0x68] []
  exact ⟨opens, returns, agree greeted (followsHanded.meets.mp
    ⟨.of_bytes trivial (quiet _ _) (by decide) rfl (by decide), trivial⟩)⟩

end Network

end MonoioTungstenite
