import MockHost.Client.Basic

/-!
# Scripted sockets

A script says beforehand what every call on a socket comes to: what is received,
which sends fail, and whether connecting, shutting down and closing fail. Clients
and connections can be run against scripts, and the trace shows what they did.

## Main definitions

* `Script`: What the calls on one socket come to.
* `ScriptedWorld`: Endpoints with their scripts, the sockets connected so far and
  the trace.
* `ScriptedWorld.transport`: How the sockets of clients work in it.
-/

namespace MockHost

/-- What one call that reads from a socket comes to. -/
inductive Script.Event where
  /-- Bytes arrive, and are handed out as fast as they are asked for. -/
  | data (bs : Bytes)
  /-- The peer has finished sending. -/
  | finished
  | fault (f : Failure)
  /-- The connection is closed while it waits for its peer, after which the wait ends
      or fails. -/
  | closing (f : Option Failure)

/-- What the calls on one socket come to. -/
structure Script where
  received : List Script.Event := []
  /-- The failures of successive sends; further sends succeed. -/
  sends : List (Option Failure) := []
  connecting : Option Failure := none
  shuttingDown : Option Failure := none
  closing : Option Failure := none

/-- A socket that follows a script. -/
structure ScriptedSocket where
  label : Text
  /-- What successive reads of one byte give. -/
  arrivals : List Arrival
  sends : List (Option Failure)
  closing : Option Failure

/-- Endpoints with their scripts, the sockets connected so far and the trace. -/
structure ScriptedWorld where
  /-- The scripts of the next connections to each endpoint. -/
  endpoints : List (Text × List Script)
  sockets : Array ScriptedSocket := #[]
  trace : Trace := #[]

namespace Script

/-- What an event gives when it is read byte by byte. Empty data reads like the end. -/
def Event.arrivals : Event → List Arrival
  | .data [] | .finished | .closing none => [.finished]
  | .data bs => bs.map .byte
  | .fault f | .closing (some f) => [.fault f]

/-- The socket of a client that follows a script. -/
def toSocket (s : Script) (label : Text) : ScriptedSocket where
  label := label
  arrivals := s.received.flatMap Event.arrivals
  sends := s.sends
  closing := s.closing

end Script

namespace ScriptedWorld

/-- An act that fails if a script says so. -/
def failing {σ : Type} : Option Failure → Act σ Unit
  | some f => throw f
  | none => return

/-- Adds to the trace. -/
def note (o : Occurrence) : Act ScriptedWorld Unit :=
  modify fun w => { w with trace := w.trace.push o }

/-- The next script of an endpoint, and the endpoints without it. -/
def takeScript (name : Text) :
    List (Text × List Script) → Option (Script × List (Text × List Script))
  | [] => none
  | (n, scripts) :: rest =>
    if n = name then
      match scripts with
      | [] => none
      | s :: more => some (s, (n, more) :: rest)
    else (takeScript name rest).map fun (s, rest) => (s, (n, scripts) :: rest)

/-- Connects to an endpoint. One without a script left refuses. -/
def connect (host : Text) (port : Port) (span : Seconds) : Act ScriptedWorld SocketId := do
  let name := host ++ ":" ++ Text.ofInt port
  note (.connect name span)
  match takeScript name (← get).endpoints with
  | none => throw (.system (.numbered 111))
  | some (script, endpoints) =>
    modify fun w => { w with endpoints := endpoints }
    failing script.connecting
    let id := (← get).sockets.size
    modify fun w => { w with sockets := w.sockets.push (script.toSocket name) }
    return id

/-- Does something with a socket that exists. -/
def onSocket (id : SocketId) (a : ScriptedSocket → Act ScriptedWorld Unit) :
    Act ScriptedWorld Unit := do
  match (← get).sockets[id]? with
  | some s => a s
  | none => return

/-- Replaces a socket. -/
def setSocket (id : SocketId) (s : ScriptedSocket) : Act ScriptedWorld Unit :=
  modify fun w => { w with sockets := w.sockets.setIfInBounds id s }

/-- Sends, or fails as the script says. -/
def send (id : SocketId) (data : Bytes) : Act ScriptedWorld Unit :=
  onSocket id fun s => do
    setSocket id { s with sends := s.sends.tail }
    match s.sends.head? with
    | some (some f) => throw f
    | _ => note (.send s.label data)

/-- Closes a socket; the script may say that this fails afterwards. -/
def close (id : SocketId) : Act ScriptedWorld Unit :=
  onSocket id fun s => do
    note (.close s.label)
    failing s.closing

/-- How the sockets of clients work in a scripted world. -/
def transport : Transport ScriptedWorld where
  note := note
  connect := connect
  setTimeout id span := onSocket id fun s => note (.setTimeout s.label span)
  send := send
  arrivals id w := (w.sockets[id]?.map (·.arrivals)).getD []
  consume id n := onSocket id fun s => setSocket id { s with arrivals := s.arrivals.drop n }
  close := close

end ScriptedWorld

end MockHost
