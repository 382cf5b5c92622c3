import MockHost.Network.Link

/-!
# Networks

A network holds servers, the links of their clients and the connections that serve
them. Host names play no part in it: a port is all that identifies a listener.

## Main definitions

* `Server`, `ServerStatus`, `Acceptor`: A server and the thread that accepts clients.
* `Network`: Servers, links and connections by number, and the trace.
* `Network.listenerOn?`: The server that listens on a port.
-/

namespace MockHost

/-- The number of a server in a network. -/
abbrev ServerId := Nat

/-- How far a server has come. -/
inductive ServerStatus where
  | created
  | opened
  | closing
  | closed
  deriving DecidableEq, Repr

/-- The name of a status. -/
def ServerStatus.label : ServerStatus → Text
  | .created => "created"
  | .opened => "open"
  | .closing => "closing"
  | .closed => "closed"

/-- What the thread that accepts clients is doing. -/
inductive Acceptor where
  | notStarted
  | running
  /-- It waits for a client. -/
  | waiting
  | ended
  deriving DecidableEq, Repr

/-- A listening socket. -/
structure Listener where
  /-- The links that have not been accepted yet, oldest first. -/
  queue : List LinkId := []
  /-- Whether the socket has been shut down. -/
  shut : Bool := false
  deriving DecidableEq, Repr

/-- A server. -/
structure Server where
  host : Text
  /-- The port to listen on; the port that was bound once there is one. -/
  port : Port
  behavior : Behavior
  registry : Registry
  hooks : List Hook
  dispatcher : Dispatcher
  readTimeout : Seconds
  status : ServerStatus := .created
  /-- Whether accepting clients is to stop. -/
  stopping : Bool := false
  /-- Whether somebody is closing the server right now. -/
  closeUnderWay : Bool := false
  acceptor : Acceptor := .notStarted
  listener : Option Listener := none
  /-- The connections being served. -/
  live : List ConnectionId := []
  /-- The number of connections accepted so far. -/
  accepted : Nat := 0
  /-- The records of connections that have ended. -/
  finishedDispatches : List DispatchRecord := []
  /-- The number of messages counted so far. -/
  messages : Nat := 0
  /-- The record of the last message, if it was not expected. -/
  mismatch : Option Mismatch := none
  lastMessage : Option MessageStream := none

namespace Server

/-- Whether a server accepts clients. -/
def isOpen (s : Server) : Bool := s.status = .opened

/-- The name of the thread that accepts clients. -/
def threadName (s : Server) : Text := "MockTCPServer-" ++ Text.ofInt s.port

/-- Whether a server has counted as many messages as somebody waits for. -/
def hasCounted (s : Server) (count : Int) : Bool := decide (count ≤ s.messages)

/-- How a server is shown. -/
def shown (s : Server) : Text :=
  "MockTCPServer(host=" ++ s.host.quoted ++ ", port=" ++ Text.ofInt s.port ++ ", status=" ++
    s.status.label ++ ")"

/-- A server that has counted the message that a connection has at hand. -/
def counting (c : Connection) (s : Server) : Server :=
  { s with messages := s.messages + 1, mismatch := c.mismatch, lastMessage := c.lastMessage }

/-- A new server with what the settings state, apart from what is given. -/
def create (settings : Settings) (port : Option Port) (host : Option Text := none)
    (behavior : Option Behavior := none) (registry : Option Registry := none)
    (hooks : Option (List Hook) := none) (dispatcher : Option Dispatcher := none)
    (readTimeout : Option Seconds := none) : Server where
  host := host.getD settings.host
  port := port.getD settings.defaultPort
  behavior := behavior.getD {}
  registry := registry.getD {}
  hooks := hooks.getD [{}]
  dispatcher := dispatcher.getD
    (Dispatcher.usual settings ({} : Behavior).ack ({} : Behavior).nak)
  readTimeout := readTimeout.getD settings.readTimeout

end Server

/-- A connection with the link it serves and the server it belongs to. -/
structure Served where
  connection : Connection
  link : LinkId
  server : ServerId

/-- A socket that a server has opened to listen with and that has not been bound. -/
structure UnboundSocket where
  server : ServerId
  closed : Bool
  deriving DecidableEq, Repr

/-- Failures that are to happen on a port, each once, in order. -/
abbrev PortFaults := List (Port × Failure)

/-- Servers, links and connections by number. -/
structure Network where
  settings : Settings
  servers : Array Server := #[]
  links : Array Link := #[]
  connections : Array Served := #[]
  /-- How many ports have been chosen for servers that left the choice open. -/
  chosenPorts : Nat := 0
  /-- The sockets that servers have opened and that could not be bound, latest first. -/
  unbound : List UnboundSocket := []
  bindFaults : PortFaults := []
  shutdownFaults : PortFaults := []
  acceptFaults : PortFaults := []
  trace : Trace := #[]

namespace Network

/-- The number before the first port that is chosen for a server. -/
def chosenPortBase : Port := 40000

/-- The number before the first port of a client. -/
def clientPortBase : Port := 50000

/-- The address that clients have. -/
def clientHost : Text := "127.0.0.1"

/-- The server that listens on a port. -/
def listenerOn? (n : Network) (port : Port) : Option ServerId :=
  n.servers.findIdx? fun s => s.listener.isSome && s.port == port

/-- The ports that are listened on, in order. -/
def listeningPorts (n : Network) : List Port :=
  ((n.servers.toList.filter fun s => s.listener.isSome).map Server.port).mergeSort

/-- The first failure for a port, and the failures without it. -/
def takeFault (port : Port) : PortFaults → Option (Failure × PortFaults)
  | [] => none
  | (p, f) :: rest =>
    if p = port then some (f, rest)
    else (takeFault port rest).map fun (g, rest) => (g, (p, f) :: rest)

/-- The records of the deliveries of a connection. -/
def recordsOf (n : Network) (id : ConnectionId) : List DispatchRecord :=
  ((n.connections[id]?).map (·.connection.dispatches)).getD []

/-! ### Changing one entry -/

/-- Adds to the trace. -/
def note (o : Occurrence) : Act Network Unit := modify fun n => { n with trace := n.trace.push o }

/-- Changes a server. -/
def modifyServer (id : ServerId) (f : Server → Server) : Act Network Unit :=
  modify fun n => { n with servers := n.servers.modify id f }

/-- Replaces a link. -/
def setLink (id : LinkId) (l : Link) : Act Network Unit :=
  modify fun n => { n with links := n.links.setIfInBounds id l }

/-- Changes a connection. -/
def modifyConnection (id : ConnectionId) (f : Connection → Connection) : Network → Network :=
  fun n => { n with
    connections := n.connections.modify id fun s => { s with connection := f s.connection } }

/-- Does something with a server that exists. -/
def withServer {α : Type} (id : ServerId) (missing : α) (a : Server → Act Network α) :
    Act Network α := do
  match (← get).servers[id]? with
  | some s => a s
  | none => return missing

/-- Does something with a link that exists. -/
def withLink (id : LinkId) (a : Link → Act Network Unit) : Act Network Unit := do
  match (← get).links[id]? with
  | some l => a l
  | none => return

/-- A new server. -/
def addServer (s : Server) : Act Network ServerId := do
  let id := (← get).servers.size
  modify fun n => { n with servers := n.servers.push s }
  return id

end Network

end MockHost
