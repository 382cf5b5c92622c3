import MockHost.Configuration
import MockHost.Network.Threads

/-!
# Server pools

A pool owns servers, one per port: it starts them, finds them by port and closes
them together. Servers may be added one at a time or all at once from a
configuration; in the second case either all of them start or none stays.

## Main definitions

* `Pool`: The servers of a pool by port.
* `Host`: A network, a pool of its servers and a configuration.
* `Host.add`, `Host.remove`, `Host.shutdown`: Changing the pool.
* `Host.bootstrap`: Adds a server for every port of the configuration.
-/

namespace MockHost

/-- The servers of a pool. -/
structure Pool where
  /-- Every server under the port it had when it was added, in the order of addition. -/
  servers : List (Port × ServerId) := []
  /-- Whether the pool has been shut down, and no server added since. -/
  stopped : Bool := false
  deriving DecidableEq, Repr

namespace Pool

/-- The server on a port. -/
def get? (p : Pool) (port : Port) : Option ServerId := p.servers.lookup port

/-- Whether there is a server on a port. -/
def contains (p : Pool) (port : Port) : Bool := (p.get? port).isSome

/-- The ports, in order. -/
def ports (p : Pool) : List Port := (p.servers.map Prod.fst).mergeSort

/-- The servers, in the order of addition. -/
def members (p : Pool) : List ServerId := p.servers.map Prod.snd

/-- The number of servers. -/
def size (p : Pool) : Nat := p.servers.length

/-- A pool with a server put on a port. -/
def insert (p : Pool) (port : Port) (id : ServerId) : Pool where
  servers :=
    if p.contains port then p.servers.map fun e => if e.1 = port then (port, id) else e
    else p.servers ++ [(port, id)]
  stopped := false

/-- A pool without the server on a port. -/
def erase (p : Pool) (port : Port) : Pool :=
  { p with servers := p.servers.filter fun e => e.1 != port }

end Pool

/-- A network, a pool of its servers and a configuration. -/
structure Host where
  network : Network
  configuration : Configuration
  pool : Pool := {}

namespace Host

/-- An act in the network. -/
def onNetwork {α : Type} (a : Act Network α) : Act Host α :=
  Act.within Host.network (fun n h => { h with network := n }) a

/-- An act on the configuration. What it traces belongs to the trace of the network. -/
def onConfiguration {α : Type} (a : Act Configuration α) : Act Host α :=
  Act.within (fun h => { h.configuration with trace := #[] })
    (fun c h => { h with
      configuration := c
      network := { h.network with trace := h.network.trace ++ c.trace } }) a

/-- Adds to the trace. -/
def note (o : Occurrence) : Act Host Unit := onNetwork (Network.note o)

/-- Changes the pool. -/
def modifyPool (f : Pool → Pool) : Act Host Unit := modify fun h => { h with pool := f h.pool }

/-- A server of the network. -/
def server? (h : Host) (id : ServerId) : Option Server := h.network.servers[id]?

/-- The port of a server. -/
def portOf (h : Host) (id : ServerId) : Port := ((h.server? id).map Server.port).getD 0

section

variable (sch : Scheduler)

/-- Closes a server. -/
def closeServer (id : ServerId) : Act Host Unit := onNetwork (Network.closeServer sch id)

/-- Adds a server to the pool and starts it if it has not been started. A port that is
    still to be chosen cannot be taken yet. -/
def add (id : ServerId) : Act Host Unit := do
  let h ← get
  let port := h.portOf id
  if port ≠ 0 && h.pool.contains port then throw (.reported (.alreadyRegistered port))
  if ((h.server? id).map Server.status) = some .created then
    onNetwork (Network.startServer sch id)
  let h ← get
  let port := h.portOf id
  if (h.pool.get? port).any (· != id) then
    closeServer sch id
    throw (.reported (.alreadyRegistered port))
  modifyPool fun p => p.insert port id
  note (.logged .info "pool_server_added"
    [.int "port" port, .nat "servers" (← get).pool.size])

/-- Adds a new server to the pool. -/
def addNew (s : Server) : Act Host ServerId := do
  let id ← onNetwork (Network.addServer s)
  add sch id
  return id

/-- Removes the server on a port from the pool and closes it. -/
def remove (port : Port) : Act Host (Option ServerId) := do
  match (← get).pool.get? port with
  | none => return none
  | some id =>
    modifyPool fun p => p.erase port
    closeServer sch id
    return some id

/-- Closes servers one after another. -/
def closeServers : List ServerId → Act Host Unit
  | [] => return
  | id :: rest => do
    closeServer sch id
    closeServers rest

/-- Closes every server of the pool. -/
def shutdown : Act Host Unit := do
  let members := (← get).pool.members
  modifyPool fun p => { p with servers := [] }
  closeServers sch members
  modifyPool fun p => { p with stopped := true }
  note (.logged .info "pool_shutdown" [.nat "closed" members.length])

/-! ### All servers of a configuration -/

/-- Adds a server for each port. Gives the servers that were added, and what kept the next
    one from it. -/
def addPorts (make : Port → Registry → Server) :
    List ServerId → List Port → Act Host (List ServerId × Except Failure Unit)
  | started, [] => return (started, .ok ())
  | started, port :: rest => do
    let added ← Act.attempt do
      let registry ← onConfiguration (Configuration.registry port)
      addNew sch (make port registry)
    match added with
    | .ok id => addPorts make (started ++ [id]) rest
    | .error f => return (started, .error f)

/-- Removes servers from the pool one after another. -/
def removeAll : List ServerId → Act Host Unit
  | [] => return
  | id :: rest => do
    let _ ← remove sch ((← get).portOf id)
    removeAll rest

/-- The ports of servers as a field of a log entry. -/
def portsField (name : String) (h : Host) (ids : List ServerId) : LogField :=
  (Text.ofString name, .list (ids.map fun id => .int (h.portOf id)))

/-- Adds a server for every port of the configuration. If one of them fails to start, those
    before it are removed again. -/
def bootstrap (make : Port → Registry → Server) : Act Host (List ServerId) := do
  let (started, outcome) ← match ← Act.attempt (onConfiguration Configuration.ports) with
    | .ok ports => addPorts sch make [] ports
    | .error f => pure ([], .error f)
  match outcome with
  | .ok () =>
    note (.logged .info "pool_bootstrapped" [portsField "ports" (← get) started])
    return started
  | .error f =>
    note (.logged .error "pool_bootstrap_failed" [portsField "started" (← get) started])
    removeAll sch started
    throw f

end

end Host

end MockHost
