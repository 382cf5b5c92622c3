import MockHost.Network.Threads

/-!
# Operations on a network

What may be done with a network from outside, one thing after another: servers are
created, started, configured and closed, clients connect, send, read, finish and hang
up, connections are closed by whoever looks at the live ones, and calls on sockets may
be made to fail. An operation that fails is reported to whoever asked for it, and
keeps nobody from going on.

## Main definitions

* `Network.Operation`: One thing that may be done.
* `Network.operate`, `Network.operateAll`: Doing it, and doing many.
-/

namespace MockHost

namespace Network

/-- What may be done with a network from outside. -/
inductive Operation where
  /-- Creates a server, with what the settings state for what is left out. -/
  | create (port : Option Port) (host : Option Text) (behavior : Option Behavior)
    (registry : Option Registry) (hooks : Option (List Hook)) (dispatcher : Option Dispatcher)
    (readTimeout : Option Seconds)
  | start (server : ServerId)
  | close (server : ServerId)
  | configure (server : ServerId) (changes : List (Text × Value))
  /-- Closes a connection as whoever sees it among the live ones may do. -/
  | closeConnection (id : ConnectionId)
  /-- A client connects to a port. With `wake` unset the server does not hear of it for now. -/
  | connect (wake : Bool) (port : Port)
  | send (link : LinkId) (data : Bytes)
  /-- A client reads some of what has arrived. -/
  | read (link : LinkId) (size : Nat)
  | finish (link : LinkId)
  | hangUp (link : LinkId)
  /-- The next reads on the side of the server come to this. -/
  | inject (link : LinkId) (receptions : List Reception)
  /-- The next shutdown on the side of the server wakes nobody. -/
  | busy (link : LinkId)
  /-- The next attempt to listen on a port fails. -/
  | failBind (port : Port) (f : Failure)
  /-- The next shutdown of a listening socket fails. -/
  | failShutdown (port : Port) (f : Failure)
  /-- The next wait for a client fails. -/
  | failAccept (port : Port) (f : Failure)

section

variable (sch : Scheduler)

/-- Does one thing. -/
def operate : Operation → Act Network Unit
  | .create port host behavior registry hooks dispatcher readTimeout => do
    let settings := (← get).settings
    let _ ← addServer
      (Server.create settings port host behavior registry hooks dispatcher readTimeout)
  | .start server => startServer sch server
  | .close server => closeServer sch server
  | .configure server changes => do
    let _ ← configure server changes
  | .closeConnection id => closeConnection sch id
  | .connect wake port => do
    let _ ← connect sch wake port
  | .send link data => send sch .client link data
  | .read link size => withLink link fun l => setLink link (l.consume size)
  | .finish link => finish sch link
  | .hangUp link => close sch .client link
  | .inject link receptions =>
    withLink link fun l => updateLink sch link { l with injected := l.injected ++ receptions }
  | .busy link => withLink link fun l => setLink link { l with busy := true }
  | .failBind port f => modify fun n => { n with bindFaults := n.bindFaults ++ [(port, f)] }
  | .failShutdown port f =>
    modify fun n => { n with shutdownFaults := n.shutdownFaults ++ [(port, f)] }
  | .failAccept port f => do
    modify fun n => { n with acceptFaults := n.acceptFaults ++ [(port, f)] }
    match (← get).listenerOn? port with
    | some server => sch.wakeAcceptor server
    | none => return

/-- Does one thing after another, whatever comes of each. -/
def operateAll : List Operation → Act Network Unit
  | [] => return
  | o :: rest => do
    let _ ← Act.attempt (operate sch o)
    operateAll rest

end

end Network

end MockHost
