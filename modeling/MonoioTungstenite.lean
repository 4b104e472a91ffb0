import MonoioTungstenite.Lib.Outcome
import MonoioTungstenite.Lib.Run
import MonoioTungstenite.Lib.Bytes
import MonoioTungstenite.Lib.Utf8
import MonoioTungstenite.Lib.Incremental
import MonoioTungstenite.Lib.Ascii
import MonoioTungstenite.Lib.Head
import MonoioTungstenite.Lib.Elements
import MonoioTungstenite.Coding
import MonoioTungstenite.Error
import MonoioTungstenite.Mask
import MonoioTungstenite.Frame
import MonoioTungstenite.Encode
import MonoioTungstenite.Decode
import MonoioTungstenite.Incomplete
import MonoioTungstenite.Message
import MonoioTungstenite.Codec
import MonoioTungstenite.Wire
import MonoioTungstenite.WebSocket
import MonoioTungstenite.Reassembly
import MonoioTungstenite.Receive
import MonoioTungstenite.Read
import MonoioTungstenite.Reads
import MonoioTungstenite.Steps
import MonoioTungstenite.Texts
import MonoioTungstenite.States
import MonoioTungstenite.Outgoing
import MonoioTungstenite.Transcript
import MonoioTungstenite.Framing
import MonoioTungstenite.Holes
import MonoioTungstenite.Boundaries
import MonoioTungstenite.RoundTrip
import MonoioTungstenite.Format
import MonoioTungstenite.Declared
import MonoioTungstenite.Uses
import MonoioTungstenite.Delivery
import MonoioTungstenite.Losses
import MonoioTungstenite.Shutdown
import MonoioTungstenite.Limits
import MonoioTungstenite.Replies
import MonoioTungstenite.Http
import MonoioTungstenite.Handshake
import MonoioTungstenite.Client
import MonoioTungstenite.Server
import MonoioTungstenite.Reference
import MonoioTungstenite.Agreement
import MonoioTungstenite.ClientRequest
import MonoioTungstenite.Requests
import MonoioTungstenite.Connection
import MonoioTungstenite.Uris
import MonoioTungstenite.Handover
import MonoioTungstenite.Network
import MonoioTungstenite.Concord
import MonoioTungstenite.ClientHandshake
import MonoioTungstenite.ServerHandshake
import MonoioTungstenite.Negotiation
import MonoioTungstenite.Builder
import MonoioTungstenite.Logged
import MonoioTungstenite.Adapters
import MonoioTungstenite.Completion
import MonoioTungstenite.Established
import MonoioTungstenite.Handshakes
import MonoioTungstenite.Conformance
import MonoioTungstenite.Connect
import MonoioTungstenite.Lifetime
