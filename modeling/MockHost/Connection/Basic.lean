import MockHost.Behavior
import MockHost.Dispatcher
import MockHost.Expectation
import MockHost.Hook
import MockHost.Registry

/-!
# Connections

A connection serves one peer. It is open until the peer finishes, something goes
wrong or somebody closes it. What can be seen of it from outside is its status, the
number of messages, the last of them, whether that one was expected and the
records of the deliveries made so far.

Everything a connection does to its surroundings is a call: on the socket of its
peer, on its hooks or on its dispatcher. It keeps the history of its calls.

## Main definitions

* `Call`: One call that a connection makes.
* `Connection`: The state of a connection.
* `Worker`: What the thread that serves the peer is doing.
* `Connection.accept`, `Connection.create`: A new connection.
-/

namespace MockHost

/-- Whether a connection is served. -/
inductive ConnectionStatus where
  | opened
  | closed
  deriving DecidableEq, Repr

/-- The name of a status. -/
def ConnectionStatus.label : ConnectionStatus → Text
  | .opened => "open"
  | .closed => "closed"

/-- What the thread that serves a peer is doing. -/
inductive Worker where
  | notStarted
  | running
  /-- It waits for the peer, part way through a message. -/
  | waiting (begun : MessageStream)
  | ended
  deriving DecidableEq, Repr

/-- One call that a connection makes on the socket of its peer, its hooks or its
    dispatcher. -/
inductive Call where
  /-- A read of the socket, and what it failed with. -/
  | receive (fault : Option Failure)
  /-- A send to the peer, and what it failed with. -/
  | send (data : Bytes) (fault : Option Failure)
  | shutdown
  | close
  /-- The hooks were called, and found this number of messages and this record of the last
      of them. -/
  | hooks (call : HookCall) (messages : Nat) (mismatch : Option Mismatch)
  /-- The hooks failed, after they had been called. -/
  | hooksFailed (call : HookCall) (f : Failure)
  /-- Deliveries were dispatched, and left these records. -/
  | dispatch (deliveries : List Delivery) (records : List DispatchRecord)

/-- The state of a connection. -/
structure Connection where
  peer : Peer
  serverPort : Port
  behavior : Behavior
  registry : Option Registry
  dispatcher : Dispatcher
  hooks : List Hook
  readTimeout : Seconds
  expectation : Option Expectation
  status : ConnectionStatus := .opened
  closeRequested : Bool := false
  /-- Whether the socket has not been released yet. -/
  hasSocket : Bool := true
  worker : Worker := .notStarted
  /-- Bytes that have been received after the last complete message. -/
  pending : Bytes := []
  /-- The number of messages. -/
  received : Nat := 0
  /-- The record of the last message, if it was not expected. -/
  mismatch : Option Mismatch := none
  dispatches : List DispatchRecord := []
  lastMessage : Option MessageStream := none
  /-- The calls made so far, latest last. -/
  calls : List Call := []

namespace Connection

/-- Whether the connection is served. -/
def isOpen (c : Connection) : Bool := c.status = .opened

/-- Whether the thread waits for the peer. -/
def isWaiting (c : Connection) : Bool :=
  match c.worker with
  | .waiting _ => true
  | _ => false

/-- The name of the thread that serves the peer. -/
def threadName (c : Connection) : Text :=
  "ClientConnection-" ++ Text.ofInt c.serverPort ++ "-" ++ Text.ofInt c.peer.port

/-- How a connection is shown. -/
def shown (c : Connection) : Text :=
  "ClientConnection(server_port=" ++ Text.ofInt c.serverPort ++ ", peer=(" ++ c.peer.host.quoted ++
    ", " ++ Text.ofInt c.peer.port ++ "), status=" ++ c.status.label ++ ", messages_received=" ++
    Text.ofNat c.received ++ ")"

/-- A log entry that names the connection. -/
def entry (c : Connection) (severity : Severity) (event : String) (more : List LogField) :
    Occurrence :=
  .logged severity event
    ([.int "server_port" c.serverPort, .text "peer" c.peer.shown] ++ more)

/-- A connection with the records of more deliveries. -/
def withRecords (records : List DispatchRecord) (c : Connection) : Connection :=
  { c with dispatches := c.dispatches ++ records }

/-- A connection whose thread does something else. -/
def withWorker (worker : Worker) (c : Connection) : Connection := { c with worker := worker }

/-- A stream for the next message. -/
def freshStream (c : Connection) : MessageStream :=
  MessageStream.empty c.behavior.terminator.length

/-- The expectation that a behaviour states. -/
def expectationOf (b : Behavior) : Except Failure (Option Expectation) :=
  match b.expected with
  | none => .ok none
  | some source =>
    match Expectation.compile source with
    | .ok e => .ok (some e)
    | .error e => .error (.pattern source e)

/-- A new connection, unless the pattern of the behaviour cannot be used. -/
def accept (peer : Peer) (serverPort : Port) (behavior : Behavior) (registry : Option Registry)
    (dispatcher : Dispatcher) (hooks : List Hook) (readTimeout : Seconds) :
    Except Failure Connection := do
  let expectation ← expectationOf behavior
  return { peer, serverPort, behavior, registry, dispatcher, hooks, readTimeout, expectation }

/-- A new connection with what the settings and its behaviour state, apart from what is given. -/
def create (settings : Settings) (peer : Peer) (serverPort : Port)
    (behavior : Option Behavior := none) (registry : Option Registry := none)
    (dispatcher : Option Dispatcher := none) (hooks : Option (List Hook) := none)
    (readTimeout : Option Seconds := none) : Except Failure Connection :=
  let b := behavior.getD {}
  accept peer serverPort b registry (dispatcher.getD (Dispatcher.usual settings b.ack b.nak))
    (hooks.getD [{}]) (readTimeout.getD settings.readTimeout)

end Connection

/-- The world of a connection: where its state is kept, and what its calls on the socket
    of the peer and on the server do. -/
structure Surroundings (σ : Type) where
  connection : σ → Connection
  update : (Connection → Connection) → σ → σ
  /-- What other threads do before the connection looks at its state again. -/
  meanwhile : Act σ Unit
  /-- Adds to the trace. -/
  note : Occurrence → Act σ Unit
  send : Bytes → Act σ Unit
  shutdown : Act σ Unit
  close : Act σ Unit
  /-- Makes deliveries. -/
  dispatch : Dispatcher → List Delivery → Act σ (List DispatchRecord)
  closeServer : Act σ Unit
  configureServer : List (Text × Value) → Act σ Unit
  /-- Tells the server that a message has come in. -/
  countMessage : Act σ Unit
  /-- Tells the server that the connection has ended. -/
  forget : Act σ Unit
  /-- How long one wait for the thread lasts when the connection is closed. -/
  closeJoinTimeout : Seconds

end MockHost
