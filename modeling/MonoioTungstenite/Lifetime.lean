import MonoioTungstenite.Completion
import MonoioTungstenite.Established

/-! # From the handshake to the end

A connection that both handshakes have established can be brought to its end, whatever the ends have done with it
(`established_completes`).  For the queues a client that has read bytes together with the response is a new one
(`Linked.handedOver`). -/

namespace MonoioTungstenite

open WebSocket

namespace Network

variable {width : Role → PointerWidth} {configs : Role → WebSocketConfig} {network : Network} {link : Link}
  {config : Option WebSocketConfig} {tail : List UInt8}

/-- What the client has read together with the response is under way as before. -/
theorem Linked.handedOver (linked : Linked width configs network link)
    (fresh : network .Client = fromRawSocket .new .Client config)
    (arrived : tail <+: (network .Server).frameCodec.io.accepted) :
    Linked width configs (Function.update network .Client ((fromRawSocket .new .Client config).holding tail)) link := by
  obtain ⟨⟨past, concord⟩, inLink⟩ := linked
  refine ⟨⟨past, inConcord_handedOver concord fresh arrived⟩, fun role => ?_⟩
  obtain ⟨closed, behind, ahead, queued, between, carried, sees⟩ := inLink role
  cases role with
  | Server =>
    rw [show Role.other .Server = .Client from rfl, fresh] at queued
    exact ⟨closed, behind, ahead, queued, between, carried, sees⟩
  | Client =>
    rw [fresh] at closed between sees
    obtain rfl := between.nothing_behind rfl
    exact ⟨closed, [], ahead, queued, .fresh rfl rfl rfl, carried, sees⟩

/-! ## The connection -/

section Established

variable {crates : Crates} {callback : Server.Callback} {request : Request} {data : Client.VerifyData}
  {sent answer : List UInt8} {response : Client.Response} {clientIo serverIo : Stream}

/-- **A connection that both handshakes have established can be completed.**  The ends have taken turns in any order, the
server since its handshake and the client since its own.  Then there are reads and flushes, fair too, after which each end
has returned all of the texts, data and pings that had been written at the other one, although the client may have had the
first of them in its buffer when its handshake was over; and if an end is not active any more, both are terminated. -/
theorem established_completes (delimits : crates.Delimits) (delimitsRequests : Server.DelimitsRequests crates)
    (requested : Client.openHandshake crates request = .ok (data, sent))
    (answered : Server.serverHandshake crates callback sent = (answer, .ok ()))
    (accepted : Client.Accepted crates data answer response) (width : Role → PointerWidth)
    (configs : Role → Option WebSocketConfig) (roomy : ∀ role, Roomy ((configs role).getD .default))
    (clientObliging : clientIo.Obliging) (serverObliging : serverIo.Obliging) {asks restOfAsks : List (List UInt8)}
    {askScript leftOfAsks : List ReadAction} (asked : asks.flatten = sent)
    (servesAsk : Server.ServesRequest crates restOfAsks leftOfAsks [] asks askScript) {early : List (Role × Call)}
    {later : Network} (others : ∀ turn ∈ early, turn.1 ≠ .Client)
    (fair : Lib.Meets (step width) (FairFrom (handshakeBytes clientIo serverIo sent answer) width)
      (begun clientIo serverIo sent answer configs leftOfAsks) early)
    (final : Lib.final (step width) (begun clientIo serverIo sent answer configs leftOfAsks) early = later)
    {chunks rest : List (List UInt8)} {left script : List ReadAction} {following : List UInt8}
    (stream : chunks.flatten = answer ++ following) (serves : Client.ServesResponse crates rest left [] chunks script)
    (pipe : serverIo.accepted ++ chunks.flatten <+: (later .Server).frameCodec.io.accepted) :
    ∃ tail client, tail ++ rest.flatten = following ∧ client = opened (configs .Client) clientIo sent tail left .Client ∧
      (Client.clientHandshake crates request (configs .Client) clientIo script).1 = .ok (client, response) ∧
      ∀ turns,
        Lib.Meets (step width) (FairFrom (handshakeBytes clientIo serverIo sent answer) width)
          (Function.update later .Client client) turns →
        ∃ more, (∀ turn ∈ more, Brings turn) ∧
          Lib.Meets (step width) (FairFrom (handshakeBytes clientIo serverIo sent answer) width)
            (Function.update later .Client client) (turns ++ more) ∧
          (∀ role, returned role
              (Lib.trace (step width) (begun clientIo serverIo sent answer configs leftOfAsks) early ++
                Lib.trace (step width) (Function.update later .Client client) (turns ++ more)) =
            written role.other
              (Lib.trace (step width) (begun clientIo serverIo sent answer configs leftOfAsks) early ++
                Lib.trace (step width) (Function.update later .Client client) turns)) ∧
          ∀ role, (Lib.final (step width) (Function.update later .Client client) turns role).state ≠ .Active →
            ∀ other, (Lib.final (step width) (Function.update later .Client client) (turns ++ more) other).state =
              .Terminated := by
  obtain ⟨_, runs⟩ := established delimits delimitsRequests requested answered accepted width configs clientObliging
    serverObliging asked servesAsk
  obtain ⟨tail, behind, returns, arrived, followsHanded⟩ := runs final stream serves pipe
  have simulates := follows_simulates (handshakes clientIo serverIo sent answer) width
  have follows := follows_begun clientIo serverIo sent answer configs leftOfAsks
  have fresh := final_waits width (joined configs) others
  refine ⟨tail, _, behind, rfl, returns, fun turns fairTurns => ?_⟩
  -- the queues are those of two new ends, of which the client has read what the other one has behind the response
  obtain ⟨_, earlyPath, earlyLinked⟩ := (step_refines roomy).path (linked_joined width configs) (follows.meets.mpr fair)
  obtain ⟨link, path, linked⟩ := (step_refines roomy).path (earlyLinked.handedOver fresh arrived)
    (followsHanded.meets.mpr fairTurns)
  obtain ⟨more, brings, further, conveyed, terminates⟩ := linked.completes roomy (earlyPath.append path)
  refine ⟨more, brings,
    followsHanded.meets.mp (Lib.meets_append.mpr ⟨followsHanded.meets.mpr fairTurns, further⟩), ?_, ?_⟩
  · intro role
    have whole := conveyed role
    rw [List.append_assoc, ← Lib.trace_append, simulates.trace follows, simulates.trace followsHanded,
      simulates.trace followsHanded] at whole
    exact whole
  · intro role inactive other
    rw [(simulates.final followsHanded turns).state] at inactive
    rw [(simulates.final followsHanded (turns ++ more)).state, Lib.final_append]
    exact terminates role inactive other

end Established

/-- The client closes the connection, with a part of the greeting in its buffer. -/
def parting : List (Role × Call) := [(.Client, .reading (.close none) [])]

theorem established_completes_parting :
    ∃ client, (Client.clientHandshake (referenceCrates fun _ => sampleHash) sampleRequest none .new
        [.fill (sampleAnswered ++ [0x81, 2, 0x68]), .decode]).1 = .ok (client, Client.sampleResponse) ∧
      ∃ more, (∀ turn ∈ more, Brings turn) ∧
        ∀ role, (Lib.final (step fun _ => .w64) (Function.update (Lib.final (step fun _ => .w64)
          (begun .new .new sampleSent sampleAnswered (fun _ => none) []) greeting) .Client client) (parting ++ more)
            role).state = .Terminated := by
  have obliging : Stream.new.Obliging := by decide
  have asked : [sampleSent].flatten = sampleSent := List.append_nil _
  have stream : [sampleAnswered ++ [0x81, 2, 0x68]].flatten = sampleAnswered ++ [0x81, 2, 0x68] := List.append_nil _
  obtain ⟨tail, client, behind, same, returns, completes⟩ := established_completes (referenceCrates_delimits _)
    (Server.referenceCrates_delimitsRequests _) sample_requested sample_answered sample_accepted (fun _ => .w64)
    (fun _ => none) (fun _ => by decide) obliging obliging asked sample_asks greeting_servers greeting_fair rfl stream
    sample_responds greeting_arrived
  obtain rfl : tail = [0x81, 2, 0x68] := (List.append_nil tail).symm.trans behind
  have followsLater := (follows_simulates _ fun _ => .w64).final sample_begun greeting
  have followsHanded := followsLater.handed none [0x81, 2, 0x68] []
  rw [← same] at followsHanded
  have suits : SuitsClose none := by simp [SuitsClose]
  have fair : Lib.Meets (step fun _ => .w64)
      (FairFrom (handshakeBytes .new .new sampleSent sampleAnswered) fun _ => .w64)
      (Function.update (Lib.final (step fun _ => .w64) (begun .new .new sampleSent sampleAnswered (fun _ => none) [])
        greeting) .Client client) parting := by
    refine followsHanded.meets.mp ⟨.of_bytes suits (Call.calm_of_nil rfl rfl rfl) ?_ rfl ?_, trivial⟩
    · decide
    · decide
  obtain ⟨more, brings, _, _, terminates⟩ := completes parting fair
  refine ⟨client, returns, more, brings, terminates .Client ?_⟩
  rw [((follows_simulates _ fun _ => .w64).final followsHanded parting).state]
  decide

end Network

end MonoioTungstenite
