import MockHost.Network.Reader

/-!
# Threads

Every server has a thread that accepts clients, and every connection has a thread
that serves its client. A thread runs until it has to wait, and whatever gives it
something to do wakes it at once. A thread that is running already is not entered a
second time; it finds out later.

How a thread is woken is left open here: a `Scheduler` says it, and every operation
that may wake a thread takes one.

## Main definitions

* `Scheduler`: How threads are woken.
* `Network.transport`: The sockets of clients.
* `Network.surroundings`: The world of one connection.
* `Network.closeServer`: Closes a server.
* `Network.serve`, `Network.acceptNext`: What the two kinds of thread do when woken.
-/

namespace MockHost

/-- How threads are woken, and how a hook closes a server. -/
structure Scheduler where
  wakeWorker : ConnectionId → Act Network Unit
  wakeAcceptor : ServerId → Act Network Unit
  closeServer : ServerId → Act Network Unit

/-- Nothing wakes any thread. -/
def Scheduler.idle : Scheduler := ⟨fun _ => return, fun _ => return, fun _ => return⟩

namespace Network

section

variable (sch : Scheduler)

/-! ### Sockets -/

/-- Wakes the thread that serves a link. -/
def wakeServing (l : Link) : Act Network Unit :=
  match l.connection with
  | some id => sch.wakeWorker id
  | none => return

/-- A link that has changed for the side of the server. -/
def updateLink (id : LinkId) (l : Link) : Act Network Unit := do
  setLink id l
  wakeServing sch l

/-- Sends over a link. -/
def send (side : Side) (id : LinkId) (data : Bytes) : Act Network Unit :=
  withLink id fun l =>
    match l.send? side data with
    | .error e => throw (.system e)
    -- Clients have no threads, so only what they send wakes one.
    | .ok l => if side = .client then updateLink sch id l else setLink id l

/-- Ends sending on the side of the client. -/
def finish (id : LinkId) : Act Network Unit :=
  withLink id fun l =>
    match l.finish? .client with
    | .error e => throw (.system e)
    | .ok l => updateLink sch id l

/-- Shuts down the side of the server. -/
def shutdown (id : LinkId) : Act Network Unit :=
  withLink id fun l =>
    match l.shutdown? .server with
    | .error e => throw (.system e)
    | .ok l => if l.busy then setLink id { l with busy := false } else updateLink sch id l

/-- Closes one side of a link. -/
def close (side : Side) (id : LinkId) : Act Network Unit :=
  withLink id fun l => updateLink sch id (l.close side)

/-- Connects to a port. With `wake` unset the server does not hear of it for now. -/
def connect (wake : Bool) (port : Port) : Act Network LinkId := do
  match (← get).listenerOn? port with
  | none => throw (.system (.numbered 111))
  | some server =>
    let id := (← get).links.size
    let l : Link := { clientPort := clientPortBase + 1 + id }
    modify fun n => { n with links := n.links.push l }
    modifyServer server fun s =>
      { s with listener := s.listener.map fun x => { x with queue := x.queue ++ [id] } }
    if wake then sch.wakeAcceptor server
    return id

/-- The sockets of clients. Only what is logged is traced in a network. -/
def transport : Transport Network where
  note := note
  connect _ port _ := connect sch true port
  setTimeout _ _ := return
  send := send sch .client
  arrivals id n := ((n.links[id]?).map Link.arrivals).getD []
  consume id k := withLink id fun l => setLink id (l.consume k)
  close := close sch .client

/-! ### Connections -/

/-- A server counts a message. -/
def countMessage (server : ServerId) (id : ConnectionId) : Act Network Unit := do
  match (← get).connections[id]? with
  | none => return
  | some served => modifyServer server (Server.counting served.connection)

/-- A server forgets a connection that has ended, and keeps its records. -/
def forget (server : ServerId) (id : ConnectionId) : Act Network Unit :=
  withServer server () fun s => do
    if s.live.contains id then
      let records := (← get).recordsOf id
      let live := s.live.erase id
      modifyServer server fun s =>
        { s with live := live, finishedDispatches := s.finishedDispatches ++ records }
      note (.logged .debug "server_connection_released"
        [.int "port" s.port, .nat "live" live.length])

/-- Changes the behaviour of a server for the connections accepted from now on. -/
def configure (server : ServerId) (changes : List (Text × Value)) : Act Network (Option Behavior) :=
  withServer server none fun s =>
    match s.behavior.change changes with
    | .error e => throw (.invalid e)
    | .ok b => do
      modifyServer server fun s => { s with behavior := b }
      return some b

/-- The world of a connection. -/
def surroundings (closeJoinTimeout : Seconds) (id : ConnectionId) (served : Served) :
    Surroundings Network where
  connection n := ((n.connections[id]?).map (·.connection)).getD served.connection
  update := modifyConnection id
  meanwhile := return
  note := note
  send := send sch .server served.link
  shutdown := shutdown sch served.link
  close := close sch .server served.link
  dispatch d deliveries := d.dispatchAll (transport sch) deliveries
  closeServer := sch.closeServer served.server
  configureServer changes := do
    let _ ← configure served.server changes
  countMessage := countMessage served.server id
  forget := forget served.server id
  closeJoinTimeout := closeJoinTimeout

/-- Does something with a connection that exists, in its world. -/
def withConnection (id : ConnectionId) (a : Surroundings Network → Served → Act Network Unit) :
    Act Network Unit := do
  let n ← get
  match n.connections[id]? with
  | some served => a (surroundings sch n.settings.closeJoinTimeout id served) served
  | none => return

/-- Asks for the end of a connection. -/
def closeConnection (id : ConnectionId) : Act Network Unit :=
  withConnection sch id fun w _ => Connection.close w

/-- Sets what the thread of a connection is doing. -/
def setWorker (id : ConnectionId) (worker : Worker) : Act Network Unit :=
  modify (modifyConnection id (Connection.withWorker worker))

/-- The end of the thread that serves a connection. -/
def endWorker (id : ConnectionId) (w : Surroundings Network) (r : Except Failure Unit) :
    Act Network Unit := do
  let r ← Act.attempt (Connection.conclude w r)
  setWorker id .ended
  match r with
  | .ok () => return
  | .error f => note (.threadDied (w.connection (← get)).threadName f.unhandledLabel f.message)

/-- The thread that serves a connection goes on to wait, or ends. -/
def settle (id : ConnectionId) (w : Surroundings Network) :
    Except Failure (Option MessageStream) → Act Network Unit
  | .ok (some begun) => do
    setWorker id (.waiting begun)
    sch.wakeWorker id
  | .ok none => endWorker id w (.ok ())
  | .error f => endWorker id w (.error f)

/-- Starts the thread that serves a connection. -/
def startWorker (id : ConnectionId) : Act Network Unit :=
  withConnection sch id fun w served => do
    if served.connection.worker = .notStarted then
      setWorker id .running
      settle sch id w (← Act.attempt (Connection.begin w false))

/-- What a thread that serves a connection does when it is woken: it takes what one read
    gives. -/
def serve (id : ConnectionId) : Act Network Unit :=
  withConnection sch id fun w served => do
    match served.connection.worker with
    | .waiting begun =>
      withLink served.link fun l => do
        match l.receive (← get).settings.recvBufferSize.toNat with
        | none => return
        | some (r, l) =>
          setLink served.link l
          setWorker id .running
          settle sch id w (← Act.attempt (Connection.receive w false begun r))
    | _ => return

/-! ### Accepting -/

/-- What one wait for a client gives. -/
inductive Knock where
  | client (id : LinkId)
  | fault (f : Failure)

/-- What one wait for a client gives now; nothing where there is something to wait for. -/
def nextKnock (server : ServerId) : Act Network (Option Knock) :=
  withServer server none fun s => do
    match takeFault s.port (← get).acceptFaults with
    | some (f, rest) =>
      modify fun n => { n with acceptFaults := rest }
      return some (.fault f)
    | none =>
      match s.listener with
      | none => return some (.fault (.system (.numbered 22)))
      | some ⟨id :: rest, shut⟩ =>
        modifyServer server fun s => { s with listener := some ⟨rest, shut⟩ }
        return some (.client id)
      | some ⟨[], true⟩ => return some (.fault (.system (.numbered 22)))
      | some ⟨[], false⟩ => return none

/-- The network when a client has been accepted: its connection has the next number, and
    belongs to the live ones of the server if that is still open. -/
def enlist (n : Network) (server : ServerId) (link : LinkId) (c : Connection) : Network :=
  let id := n.connections.size
  { n with
    connections := n.connections.push ⟨c, link, server⟩
    links := n.links.modify link fun l => { l with connection := some id }
    servers := n.servers.modify server fun s =>
      if s.isOpen then { s with live := s.live ++ [id], accepted := s.accepted + 1 } else s }

/-- Calls the hooks of a connection that has been accepted. If they fail, that is only logged. -/
def introduce (id : ConnectionId) (port : Port) : Act Network Unit :=
  withConnection sch id fun w _ => do
    match ← Act.attempt (Connection.callOnConnect w) with
    | .ok () => return
    | .error f =>
      note (.logged .error "on_connect_hook_failed"
        [.int "port" port, .text "error" f.message, .withPlace])

/-- Serves a client that has been accepted, if the server is still open. -/
def welcome (server : ServerId) (link : LinkId) : Act Network Unit := do
  let n ← get
  match n.servers[server]?, n.links[link]? with
  | some s, some l =>
    match Connection.accept ⟨clientHost, l.clientPort⟩ s.port s.behavior (some s.registry)
        s.dispatcher s.hooks s.readTimeout with
    | .error f => throw f
    | .ok c =>
      let id := n.connections.size
      modify fun n => n.enlist server link c
      -- The server may have been closed since the client knocked.
      if s.isOpen then
        introduce sch id s.port
        startWorker sch id
      else closeConnection sch id
  | _, _ => return

/-- Answers what one wait for a client gave. A failure ends the thread. -/
def answerKnock (server : ServerId) : Knock → Act Network Unit
  | .client id => welcome sch server id
  | .fault (.system e) =>
    if e.isTimeout then return
    else withServer server () fun s => do
      if !s.stopping then
        note (.logged .warning "server_accept_failed"
          [.int "port" s.port, .text "error" e.message])
  | .fault f => throw f

/-- Sets what the thread that accepts clients is doing. -/
def setAcceptor (server : ServerId) (a : Acceptor) : Act Network Unit :=
  modifyServer server fun s => { s with acceptor := a }

/-- The thread that accepts clients goes on to wait, or ends. -/
def goOnAccepting (server : ServerId) : Act Network Unit :=
  withServer server () fun s => do
    if s.stopping then
      setAcceptor server .ended
      note (.logged .debug "server_accept_loop_stopped" [.int "port" s.port])
    else
      setAcceptor server .waiting
      sch.wakeAcceptor server

/-- What the thread that accepts clients does when it is woken: it answers one client. -/
def acceptNext (server : ServerId) : Act Network Unit :=
  withServer server () fun s => do
    if s.acceptor = .waiting then
      match ← nextKnock server with
      | none => return
      | some knock =>
        -- Whoever wakes the thread while it answers finds it running.
        setAcceptor server .running
        match ← Act.attempt (answerKnock sch server knock) with
        | .ok () => goOnAccepting sch server
        | .error f =>
          setAcceptor server .ended
          note (.threadDied s.threadName f.unhandledLabel f.message)

/-! ### Closing a server -/

/-- Shuts the listening socket down and closes it. -/
def closeListener (server : ServerId) : Act Network Unit :=
  withServer server () fun s => do
    if s.listener.isSome then
      modifyServer server fun s =>
        { s with listener := s.listener.map fun x => { x with shut := true } }
      -- The thread finds the socket shut down, and does not wait any longer.
      sch.wakeAcceptor server
      match takeFault s.port (← get).shutdownFaults with
      | none => pure ()
      | some (f, rest) =>
        modify fun n => { n with shutdownFaults := rest }
        match f with
        | .system e =>
          note (.logged .debug "server_socket_shutdown_ignored"
            [.int "port" s.port, .text "error" e.message])
        | f => throw f
      modifyServer server fun s => { s with listener := none }
      sch.wakeAcceptor server

/-- Closes connections one after another. -/
def closeConnections : List ConnectionId → Act Network Unit
  | [] => return
  | id :: rest => do
    closeConnection sch id
    closeConnections rest

/-- Stops accepting clients and closes every connection of a server. -/
def stopServer (server : ServerId) : Act Network Unit := do
  withServer server () fun s => do
    modifyServer server fun s => { s with status := .closing }
    note (.logged .info "server_closing" [.int "port" s.port])
    modifyServer server fun s => { s with stopping := true }
    closeListener sch server
  -- Threads have been woken in the meantime, so it is looked again at what is live.
  withServer server () fun s => closeConnections sch s.live
  withServer server () fun s => do
    modifyServer server fun s => { s with status := .closed }
    note (.logged .info "server_closed"
      [.int "port" s.port, .nat "messages_received" s.messages])

/-- Closes a server, unless that has been done or is being done. -/
def closeServer (server : ServerId) : Act Network Unit :=
  withServer server () fun s => do
    if !s.closeUnderWay && s.status ≠ .closed then
      modifyServer server fun s => { s with closeUnderWay := true }
      Act.andFinally (stopServer sch server)
        (modifyServer server fun s => { s with closeUnderWay := false })

/-! ### Starting a server -/

/-- A server has been started before. -/
def startedTwice (s : Server) : ErrorReport where
  kind := .server
  message := "Server on port " ++ Text.ofInt s.port ++ " cannot be started twice"
  details := [LogField.text "status" s.status.label]

/-- The address of a server cannot be listened on. -/
def cannotListen (s : Server) (e : SystemError) : ErrorReport where
  kind := .serverStart
  message := "Unable to listen on " ++ s.host ++ ":" ++ Text.ofInt s.port ++ ": " ++ e.message
  details := [LogField.text "host" s.host, LogField.int "port" s.port,
    LogField.text "error" e.message]

/-- The port that a server gets when it asks for one. -/
def bind (port : Port) : Act Network Port := do
  if port < 0 ∨ 65535 < port then throw .portOutOfRange
  match takeFault port (← get).bindFaults with
  | some (f, rest) =>
    modify fun n => { n with bindFaults := rest }
    throw f
  | none =>
    if port = 0 then
      modify fun n => { n with chosenPorts := n.chosenPorts + 1 }
      return chosenPortBase + (← get).chosenPorts
    else if ((← get).listenerOn? port).isSome then throw (.system (.numbered 98))
    else return port

/-- Opens a socket for a server and binds it. A socket that the system does not bind is closed; if
    there is another reason that it is not bound, it is left open. -/
def bindSocket (server : ServerId) (port : Port) : Act Network Port := do
  modify fun n => { n with unbound := ⟨server, false⟩ :: n.unbound }
  match ← Act.attempt (bind port) with
  | .ok port =>
    modify fun n => { n with unbound := n.unbound.tail }
    return port
  | .error (.system e) =>
    modify fun n => { n with unbound := ⟨server, true⟩ :: n.unbound.tail }
    throw (.system e)
  | .error f => throw f

/-- Binds, listens and starts to accept clients. The registry is frozen first. -/
def startServer (server : ServerId) : Act Network Unit :=
  withServer server () fun s => do
    if s.status ≠ .created then throw (.reported (startedTwice s))
    -- It stays frozen if the address cannot be listened on.
    modifyServer server fun s => { s with registry := s.registry.freeze }
    match ← Act.attempt (bindSocket server s.port) with
    | .error (.system e) => throw (.reported (cannotListen s e))
    | .error f => throw f
    | .ok port =>
      modifyServer server fun s =>
        { s with port := port, status := .opened, listener := some {}, acceptor := .waiting }
      sch.wakeAcceptor server
      note (.logged .info "server_listening"
        [.text "host" s.host, .int "port" port, .text "terminator" (Bytes.hex s.behavior.terminator),
          .nat "responses" s.registry.size])

/-- Starts a server unless that has been done. -/
def enterServer (server : ServerId) : Act Network Unit :=
  withServer server () fun s => do
    if s.status = .created then startServer sch server

end

end Network

/-- How threads are woken when at most `n` wakings may follow one another, each out of the
    one before. -/
def Scheduler.ofPatience : Nat → Scheduler
  | 0 => .idle
  | n + 1 =>
    { wakeWorker := fun id => Network.serve (ofPatience n) id
      wakeAcceptor := fun id => Network.acceptNext (ofPatience n) id
      closeServer := fun id => Network.closeServer (ofPatience n) id }

/-- The usual way to wake threads. Only a network whose servers go on sending each other
    messages without an end outlasts its patience. -/
def Scheduler.usual : Scheduler := .ofPatience 1000000

end MockHost
