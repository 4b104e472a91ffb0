import MonoioTungstenite.Codec
import MonoioTungstenite.Message

/-! # The WebSocket

`protocol/websocket.rs`: reading, writing and closing, with the state of the connection.

`checkConnectionReset` is applied to the result of a call; the random masks of a client are the list
`masks`, used in order.  A run is a list of `Call`s: each brings along what its environment will answer,
and finds the socket as the call before it left it, however that one ended. -/

namespace MonoioTungstenite

/-- Indicates a Client or Server role of the websocket. -/
inductive Role where
  | Server
  | Client
  deriving DecidableEq, Repr

/-- The configuration for WebSocket connection. -/
structure WebSocketConfig where
  writeBufferSize : Nat
  maxMessageSize : Option Nat
  maxFrameSize : Option Nat
  acceptUnmaskedFrames : Bool
  deriving DecidableEq, Repr

/-- `impl Default for WebSocketConfig` -/
def WebSocketConfig.default : WebSocketConfig where
  writeBufferSize := 128 * 1024
  maxMessageSize := some (64 <<< 20)
  maxFrameSize := some (16 <<< 20)
  acceptUnmaskedFrames := false

/-- The current connection state. -/
inductive WebSocketState where
  | Active
  | ClosedByUs
  | ClosedByPeer
  | CloseAcknowledged
  | Terminated
  deriving DecidableEq, Repr

namespace WebSocketState

def isActive : WebSocketState → Bool
  | .Active => true
  | _ => false

/-- Tells if we should process incoming data. -/
def canRead : WebSocketState → Bool
  | .Active | .ClosedByUs => true
  | _ => false

end WebSocketState

/-- Translates "Connection reset by peer" into `ConnectionClosed` if appropriate. -/
def checkConnectionReset {α : Type} (state : WebSocketState) : Result α → Result α
  | .err (.Io error) =>
    if ¬ state.canRead ∧ error.kind = .ConnectionReset then .err .ConnectionClosed else .err (.Io error)
  | result => result

/-- `check_max_size` -/
def checkMaxSize (size : Nat) (maxSize : Option Nat) : Except Error Unit :=
  match maxSize.filter (· < size) with
  | some maxSize => .error (.Capacity (.MessageTooLong size maxSize))
  | none => .ok ()

/-- `"Protocol violation"` -/
def protocolViolation : Utf8Bytes :=
  ⟨['P', 'r', 'o', 't', 'o', 'c', 'o', 'l', ' ', 'v', 'i', 'o', 'l', 'a', 't', 'i', 'o', 'n'].flatMap
    String.utf8EncodeChar⟩

/-- WebSocket input-output stream. -/
structure WebSocket where
  role : Role
  frameCodec : FrameCodec
  state : WebSocketState
  incomplete : Option IncompleteMessage
  config : WebSocketConfig
  masks : List Mask

namespace WebSocket

/-- `WebSocket::setup` -/
def setup (frameCodec : FrameCodec) (role : Role) (config : WebSocketConfig) : WebSocket where
  role
  frameCodec :=
    { frameCodec with
      inner.decoder := frameCodec.inner.decoder
        |>.setUnmask (role = .Server)
        |>.setAcceptUnmasked config.acceptUnmaskedFrames
        |>.setMaxFrameSize config.maxFrameSize }
  state := .Active
  incomplete := none
  config
  masks := []

/-- Converts a raw socket into a WebSocket without performing a handshake. -/
def fromRawSocket (stream : Stream) (role : Role) (config : Option WebSocketConfig) : WebSocket :=
  let config := config.getD .default
  setup (FrameCodec.new stream config.writeBufferSize) role config

@[simp] theorem fromRawSocket_queued (stream : Stream) (role : Role) (config : Option WebSocketConfig) :
    (fromRawSocket stream role config).frameCodec.queued = [] := rfl

/-- Changes the configuration. -/
def setConfig (setFunc : WebSocketConfig → WebSocketConfig) (socket : WebSocket) : WebSocket :=
  let config := setFunc socket.config
  { socket with
    config
    frameCodec.inner.decoder := socket.frameCodec.inner.decoder
      |>.setAcceptUnmasked config.acceptUnmaskedFrames
      |>.setMaxFrameSize config.maxFrameSize
    frameCodec.writeLimit := config.writeBufferSize }

/-- Runs an operation of the codec. -/
def onCodec {α : Type} (call : FrameCodec → Result α × FrameCodec) (socket : WebSocket) : Result α × WebSocket :=
  (call socket.frameCodec).map id fun frameCodec => { socket with frameCodec }

/-- Runs an operation of the reader. -/
def onReader {α : Type} (call : FramedRead → Result α × FramedRead) (socket : WebSocket) : Result α × WebSocket :=
  (call socket.frameCodec.inner).map id fun inner => { socket with frameCodec.inner := inner }

/-! ## Writing -/

/-- The frame as it goes into the write-buffer: a client masks it, with the next random mask. -/
def outgoing (frame : Frame) (socket : WebSocket) : Frame :=
  match socket.role with
  | .Client => frame.setRandomMask (socket.masks.headD ⟨0, 0, 0, 0⟩)
  | .Server => frame

/-- The random masks that are left after a frame has been written. -/
def masksLeft (socket : WebSocket) : List Mask :=
  match socket.role with
  | .Client => socket.masks.tail
  | .Server => socket.masks

/-- Writes a single frame into the write-buffer. -/
def writeFrame (frame : Frame) (socket : WebSocket) : Result Unit × WebSocket :=
  let frame := outgoing frame socket
  let (sent, socket) := onCodec (FrameCodec.send frame) { socket with masks := socket.masksLeft }
  (checkConnectionReset socket.state sent, socket)

/-- Flushes the writes; a server that is closing closes the connection. -/
def flush (socket : WebSocket) : Result Unit × WebSocket :=
  if socket.role = .Server ∧ ¬ socket.state.canRead then
    Lib.andThen (onCodec FrameCodec.close { socket with state := .Terminated }) fun _ socket =>
      (.err .ConnectionClosed, socket)
  else onCodec FrameCodec.flush socket

/-- Closes the connection. -/
def close (code : Option CloseFrame) (socket : WebSocket) : Result Unit × WebSocket :=
  let queued :=
    if socket.state = .Active then writeFrame (Frame.close code) { socket with state := .ClosedByUs }
    else (.ok (), socket)
  Lib.andThen queued fun _ socket => flush socket

/-- Writes a message into the websocket; does not flush. -/
def write (message : Message) (socket : WebSocket) : Result Unit × WebSocket :=
  if socket.state = .Terminated then (.err .AlreadyClosed, socket)
  -- do not write after sending a close frame
  else if ¬ socket.state.isActive then (.err (.Protocol .SendAfterClosing), socket)
  else
    match message with
    | .Text data => writeFrame (Frame.message data.bytes (.Data .Text) true) socket
    | .Binary data => writeFrame (Frame.message data (.Data .Binary) true) socket
    | .Ping data => writeFrame (Frame.ping data) socket
    | .Pong data => writeFrame (Frame.pong data) socket
    | .Close code => close code socket
    | .Frame frame => writeFrame frame socket

/-! ## Reading -/

/-- Handles the reception of a close frame: the close frame for the user and the reply for the peer. -/
def doClose (close : Option CloseFrame) (socket : WebSocket) :
    Result (Option (Option CloseFrame) × Option Frame) × WebSocket :=
  match socket.state with
  | .Active =>
    let close := close.map fun frame =>
      if ¬ frame.code.isAllowed then ⟨.Protocol, protocolViolation⟩ else frame
    (.ok (some close, some (Frame.close close)), { socket with state := .ClosedByPeer })
  | .ClosedByPeer | .CloseAcknowledged =>
    -- it is already closed, just ignore
    (.ok (none, none), socket)
  | .ClosedByUs =>
    -- we received a reply
    (.ok (some close, none), { socket with state := .CloseAcknowledged })
  | .Terminated => (.panic .closeWhenTerminated, socket)

/-- `handle_frame` on a control frame. -/
def handleControl (control : Control) (frame : Frame) (socket : WebSocket) :
    Result (Option Message × Option Frame) × WebSocket :=
  if ¬ frame.header.isFinal then (.err (.Protocol .FragmentedControlFrame), socket)
  else if frame.payload.length > 125 then (.err (.Protocol .ControlFrameTooBig), socket)
  else
    match control with
    | .Close =>
      match frame.intoClose with
      | .ok close =>
        Lib.andThen (doClose close socket) fun (msg, reply) socket => (.ok (msg.map .Close, reply), socket)
      | .error error => (.err error, socket)
    | .Reserved i => (.err (.Protocol (.UnknownControlFrameType i)), socket)
    | .Ping =>
      -- no ping processing after we sent a close frame
      let reply := if socket.state.isActive then some (Frame.pong frame.payload) else none
      (.ok (some (.Ping frame.payload), reply), socket)
    | .Pong => (.ok (some (.Pong frame.payload), none), socket)

/-- What `handle_frame` does when a frame has been added to the incomplete message. -/
def endFragment (isFinal : Bool) (socket : WebSocket) : Result (Option Message) × WebSocket :=
  if isFinal then
    match socket.incomplete with
    | none => (.panic .incompleteUnwrap, socket)
    | some msg =>
      let socket := { socket with incomplete := none }
      match msg.complete with
      | .ok message => (.ok (some message), socket)
      | .error error => (.err error, socket)
  else (.ok none, socket)

/-- `handle_frame` on a frame that continues a message. -/
def handleContinue (target : Target) (frame : Frame) (socket : WebSocket) :
    Result (Option Message) × WebSocket :=
  match socket.incomplete with
  | none => (.err (.Protocol .UnexpectedContinueFrame), socket)
  | some msg =>
    let extended := msg.extend target frame.payload socket.config.maxMessageSize
    Lib.andThen (extended.map id fun msg => { socket with incomplete := some msg }) fun _ socket =>
      endFragment frame.header.isFinal socket

/-- `handle_frame` on the first frame of a message. -/
def handleFirst (target : Target) (data : Data) (frame : Frame) (socket : WebSocket) :
    Result (Option Message) × WebSocket :=
  match data, frame.header.isFinal with
  | .Text, true =>
    match checkMaxSize frame.payload.length socket.config.maxMessageSize with
    | .error error => (.err error, socket)
    | .ok _ =>
      match frame.intoText with
      | .ok text => (.ok (some (.Text text)), socket)
      | .error error => (.err error, socket)
  | .Binary, true =>
    match checkMaxSize frame.payload.length socket.config.maxMessageSize with
    | .error error => (.err error, socket)
    | .ok _ => (.ok (some (.Binary frame.payload)), socket)
  | .Text, false | .Binary, false =>
    let messageType :=
      match data with
      | .Text => some IncompleteMessageType.Text
      | .Binary => some IncompleteMessageType.Binary
      | _ => none
    match messageType with
    | none => (.panic .messageNotTextNorBinary, socket)
    | some messageType =>
      let extended := (IncompleteMessage.new messageType).extend target frame.payload socket.config.maxMessageSize
      Lib.andThen (extended.1, socket) fun _ socket => (.ok none, { socket with incomplete := some extended.2 })
  | .Reserved i, _ => (.err (.Protocol (.UnknownDataFrameType i)), socket)
  -- the caller has taken this case already
  | .Continue, _ => (.err (.Protocol .UnexpectedContinueFrame), socket)

/-- `handle_frame` on a data frame. -/
def handleData (target : Target) (data : Data) (frame : Frame) (socket : WebSocket) :
    Result (Option Message × Option Frame) × WebSocket :=
  let handled :=
    if data = .Continue then handleContinue target frame socket
    else if socket.incomplete.isSome then (.err (.Protocol (.ExpectedFragment data)), socket)
    else handleFirst target data frame socket
  Lib.andThen handled fun msg socket => (.ok (msg, none), socket)

def handleFrame (target : Target) (frame : Frame) (socket : WebSocket) :
    Result (Option Message × Option Frame) × WebSocket :=
  match frame.header.opcode with
  | .Control control => handleControl control frame socket
  | .Data data => handleData target data frame socket

/-- `read_message_frame`, where a frame has arrived. -/
def receiveFrame (target : Target) (frame : Frame) (socket : WebSocket) :
    Result (Option Message × Option Frame) × WebSocket :=
  if ¬ socket.state.canRead then (.err (.Protocol .ReceivedAfterClosing), socket)
  else if frame.header.rsv1 ∨ frame.header.rsv2 ∨ frame.header.rsv3 then
    (.err (.Protocol .NonZeroReservedBits), socket)
  else if socket.role = .Client ∧ frame.isMasked then (.err (.Protocol .MaskedFrameFromServer), socket)
  else handleFrame target frame socket

def readMessageFrame (target : Target) (socket : WebSocket) :
    Result (Option Message × Option Frame) × WebSocket :=
  let (next, socket) := onReader (FramedRead.next target) socket
  Lib.andThen (checkConnectionReset socket.state next, socket) fun arrived socket =>
    match arrived with
    | some frame => receiveFrame target frame socket
    | none =>
      -- connection closed by peer
      let terminated := { socket with state := .Terminated }
      match socket.state with
      | .ClosedByPeer | .CloseAcknowledged => (.err .ConnectionClosed, terminated)
      | _ => (.err (.Protocol .ResetWithoutClosingHandshake), terminated)

/-- Sends and flushes the frame that is to be sent automatically, if there is one. -/
def autoSend (reply : Option Frame) (socket : WebSocket) : Result Unit × WebSocket :=
  match reply with
  | some frame => Lib.andThen (writeFrame frame socket) fun _ socket => onCodec FrameCodec.flush socket
  | none => (.ok (), socket)

/-- The body of the loop of `read`. -/
def readRound (target : Target) (socket : WebSocket) : Result (Option Message) × WebSocket :=
  Lib.andThen (readMessageFrame target socket) fun (msg, reply) socket =>
    Lib.andThen (autoSend reply socket) fun _ socket => (.ok msg, socket)

/-- The loop of `read`.  Every round works off an action of the reader, so fuel for one more round than
there are actions is enough. -/
def readLoop (target : Target) : Nat → WebSocket → Result Message × WebSocket
  | 0, socket => (.pending, socket)
  | fuel + 1, socket =>
    Lib.andThen (readRound target socket) fun msg socket =>
      match msg with
      | some msg => (.ok msg, socket)
      | none => readLoop target fuel socket

/-- Reads a message from the websocket. -/
def read (target : Target) (socket : WebSocket) : Result Message × WebSocket :=
  -- do not read from already closed connections
  if socket.state = .Terminated then (.err .AlreadyClosed, socket)
  else if socket.role = .Server ∧ ¬ socket.state.canRead then
    (.err .ConnectionClosed, { socket with state := .Terminated })
  else readLoop target (socket.frameCodec.inner.script.length + 1) socket

/-! ## Runs -/

/-- The operations of the socket that take part in runs. -/
inductive Op where
  | read
  | write (message : Message)
  | flush
  | close (code : Option CloseFrame)
  | setConfig (setFunc : WebSocketConfig → WebSocketConfig)

/-- An operation, and what its environment will answer. -/
structure Call where
  op : Op
  reader : List ReadAction
  writes : List WriteOutcome
  flushes : List IoOutcome
  shutdowns : List IoOutcome
  masks : List Mask

/-- What an operation returns: a message, if it is a `read`. -/
abbrev Reply := Result (Option Message)

/-- Lays out the answers for the next operation. -/
def install (call : Call) (socket : WebSocket) : WebSocket :=
  { socket with
    frameCodec.inner.script := call.reader
    frameCodec.io.writes := call.writes
    frameCodec.io.flushes := call.flushes
    frameCodec.io.shutdowns := call.shutdowns
    masks := call.masks }

/-- Performs an operation. -/
def perform (target : Target) (op : Op) (socket : WebSocket) : Reply × WebSocket :=
  match op with
  | .read => (read target socket).map (Lib.Outcome.map some) id
  | .write message => (write message socket).map (Lib.Outcome.map fun _ => none) id
  | .flush => (flush socket).map (Lib.Outcome.map fun _ => none) id
  | .close code => (close code socket).map (Lib.Outcome.map fun _ => none) id
  | .setConfig setFunc => (.ok none, setConfig setFunc socket)

/-- One step of a run. -/
def step (target : Target) (socket : WebSocket) (call : Call) : Reply × WebSocket :=
  perform target call.op (install call socket)

end WebSocket

end MonoioTungstenite
