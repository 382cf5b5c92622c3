import MockHost.Act
import MockHost.Client.Reply
import MockHost.Delivery
import MockHost.Settings.Basic

/-!
# Clients

A client sends messages to one endpoint and reads the replies. It connects when it
first has something to send and keeps its socket until it is closed or a message
cannot be sent.

How sockets work is left open: a `Transport` says what connecting, sending and
reading do to a world. What a world holds ready to be read is given as the list of
what successive reads would give.

## Main definitions

* `Transport`: How sockets work in a world.
* `Client`: An endpoint, a rule for replies and perhaps a socket.
* `Client.connect`, `Client.send`, `Client.readReply`, `Client.close`: The operations.
-/

namespace MockHost

/-- The name of a socket in a world. -/
abbrev SocketId := Nat

/-- How the sockets of clients work in the world `σ`. -/
structure Transport (σ : Type) where
  /-- Adds to the trace. -/
  note : Occurrence → Act σ Unit
  connect : Text → Port → Seconds → Act σ SocketId
  setTimeout : SocketId → Seconds → Act σ Unit
  send : SocketId → Bytes → Act σ Unit
  /-- What successive reads of one byte would give. -/
  arrivals : SocketId → σ → List Arrival
  /-- Takes that many arrivals. -/
  consume : SocketId → Nat → Act σ Unit
  close : SocketId → Act σ Unit

/-- A client of one endpoint. -/
structure Client where
  host : Text
  port : Port
  /-- How long to wait for a connection, and for a reply where nothing else is said. -/
  timeout : Seconds
  rule : ReplyRule
  socket : Option SocketId := none

/-- An act of a client in a world. -/
abbrev ClientAct (σ : Type) := Act (Client × σ)

namespace Client

/-- A new client. If it is not said how long it is to wait, the settings say it. -/
def create (s : Settings) (host : Text) (port : Port) (timeout : Option Seconds := none)
    (rule : ReplyRule := {}) : Client where
  host := host
  port := port
  timeout := timeout.getD s.connectTimeout
  rule := rule

/-- The host and port of the endpoint. -/
def endpoint (c : Client) : Text := c.host ++ ":" ++ Text.ofInt c.port

/-- Whether the client has a socket. -/
def isConnected (c : Client) : Bool := c.socket.isSome

/-- How a client is shown. -/
def shown (c : Client) : Text :=
  "TCPClient [host=" ++ c.host ++ ", port=" ++ Text.ofInt c.port ++ "]"

/-! ### Reports -/

/-- An endpoint could not be reached. -/
def connectReport (c : Client) (e : SystemError) : ErrorReport :=
  if e.isTimeout then
    { kind := .connectTimeout
      message := "Connection timeout to " ++ c.endpoint
      details := [LogField.seconds "timeout_sec" c.timeout] }
  else if e.isRefusal then
    { kind := .targetRefused
      message := "Connection refused by " ++ c.endpoint
      details := [LogField.text "error" e.message] }
  else
    { kind := .transport
      message := "Failed to connect to " ++ c.endpoint ++ ": " ++ e.message
      details := [LogField.text "error" e.message] }

/-- A message could not be sent. -/
def sendReport (c : Client) (e : SystemError) (size : Nat) : ErrorReport where
  kind := .send
  message := "Failed to send data to " ++ c.endpoint
  details := [LogField.text "error" e.message, LogField.nat "data_size" size]

/-- A reply could not be read. -/
def receiveReport (c : Client) (e : SystemError) (received : Nat) : ErrorReport :=
  if e.isTimeout then
    { kind := .receiveTimeout
      message := "Receive timeout from " ++ c.endpoint
      details := [LogField.nat "received" received] }
  else
    { kind := .receive
      message := "Failed to receive from " ++ c.endpoint ++ ": " ++ e.message
      details := [LogField.text "error" e.message] }

/-- A reply was none that could be expected. -/
def unexpectedReport (c : Client) (s : MessageStream) : ErrorReport :=
  .unexpectedResponse
    ("Unexpected response from " ++ c.endpoint ++ ": " ++ Bytes.quoted s.toBytes) (some s.text)

def notConnected : ErrorReport := { kind := .transport, message := "Not connected" }

def closedByPeer : ErrorReport := { kind := .receive, message := "Connection closed by peer" }

/-! ### Operations -/

section

variable {σ : Type} (t : Transport σ)

/-- An act of the world. -/
def onWorld {α : Type} (a : Act σ α) : ClientAct σ α :=
  Act.within Prod.snd (fun s p => (p.1, s)) a

/-- Writes a log entry that names the endpoint. -/
def log (severity : Severity) (event : String) (more : List LogField) : ClientAct σ Unit := do
  let c := (← get).1
  onWorld <| t.note <| .logged severity event
    ([.text "host" c.host, .int "port" c.port] ++ more)

/-- Replaces the socket. -/
def setSocket (socket : Option SocketId) : ClientAct σ Unit :=
  modify fun (c, s) => ({ c with socket := socket }, s)

/-- Connects, unless there is a socket already. -/
def connect : ClientAct σ Unit := do
  let c := (← get).1
  if c.isConnected then return
  match ← Act.attempt (onWorld (t.connect c.host c.port c.timeout)) with
  | .ok id =>
    setSocket (some id)
    log t .debug "tcp_client_connected" []
  | .error (.system e) => throw (.reported (c.connectReport e))
  | .error f => throw f

/-- Closes the socket, if there is one. A system error in closing is only logged. -/
def close : ClientAct σ Unit := do
  match (← get).1.socket with
  | none => return
  | some id =>
    match ← Act.attempt (onWorld (t.close id)) with
    | .ok () => pure ()
    | .error (.system e) => log t .warning "tcp_client_close_error" [.text "error" e.message]
    | .error f => throw f
    setSocket none
    log t .debug "tcp_client_closed" []

/-- Reads one reply, waiting at most `span` or as long as the client waits usually. -/
def readReply (span : Option Seconds) : ClientAct σ MessageStream := do
  let (c, _) ← get
  match c.socket with
  | none => throw (.reported notConnected)
  | some id =>
    onWorld (t.setTimeout id (span.getD c.timeout))
    let (ending, taken) := c.rule.read (t.arrivals id (← get).2)
    onWorld (t.consume id taken)
    match ending with
    | .complete s => return s
    | .finished s =>
      if s.size = 0 then throw (.reported closedByPeer)
      log t .debug "tcp_client_partial_response" [.nat "size" s.size]
      return s
    | .unexpected s => throw (.reported (c.unexpectedReport s))
    | .fault s (.system e) => throw (.reported (c.receiveReport e s.size))
    | .fault _ f => throw f

/-- Sends bytes and, if asked to, reads the reply. -/
def sendBytes (data : Bytes) (wait : Bool) (span : Option Seconds) :
    ClientAct σ (Option MessageStream) := do
  connect t
  log t .debug "tcp_client_sending" [.nat "size" data.length]
  let c := (← get).1
  match ← Act.attempt (onWorld (t.send (c.socket.getD 0) data)) with
  | .ok () => pure ()
  | .error (.system e) =>
    close t
    throw (.reported (c.sendReport e data.length))
  | .error f => throw f
  if wait then return some (← readReply t span) else return none

/-- Sends a text in UTF-8. -/
def sendText (message : Text) (wait : Bool) (span : Option Seconds) :
    ClientAct σ (Option MessageStream) := do
  match Utf8.encode? message with
  | .ok data => sendBytes t data wait span
  | .error e => throw (.encoding e)

end

end Client

end MockHost
