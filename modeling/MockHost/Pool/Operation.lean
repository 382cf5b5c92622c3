import MockHost.Network.Operation
import MockHost.Pool

/-!
# Operations on a pool

What may be done with a pool from outside, one thing after another: servers are added
and removed, one by one or all of a configuration together, and the pool is shut down.
In between anything may be done with the network, in which there may be servers that
the pool has never heard of. An operation that fails keeps nobody from going on.

## Main definitions

* `Host.Operation`: One thing that may be done.
* `Host.operate`, `Host.operateAll`: Doing it, and doing many.
-/

namespace MockHost

namespace Host

/-- What may be done with a pool and the network of its servers. -/
inductive Operation where
  /-- Adds a new server, which is to listen on a port. -/
  | addPort (port : Port)
  /-- Adds a server that there is already, however far it has come. -/
  | add (id : ServerId)
  | remove (port : Port)
  /-- Adds a server for every port of a configuration. -/
  | bootstrap (configuration : Configuration) (host : Option Text) (behavior : Option Behavior)
    (hooks : Option (List Hook))
  | shutdown
  /-- Does something that the pool has no part in. -/
  | network (o : Network.Operation)

section

variable (sch : Scheduler)

/-- Does one thing. -/
def operate : Operation → Act Host Unit
  | .addPort port => do
    let settings := (← get).network.settings
    let _ ← addNew sch (Server.create settings (some port))
  | .add id => do
    if ((← get).server? id).isSome then add sch id
  | .remove port => do
    let _ ← remove sch port
  | .bootstrap configuration host behavior hooks => do
    let settings := (← get).network.settings
    modify fun h => { h with configuration }
    let _ ← bootstrap sch fun port registry =>
      Server.create settings (some port) host behavior (some registry) hooks
  | .shutdown => shutdown sch
  | .network o => onNetwork (Network.operate sch o)

/-- Does one thing after another, whatever comes of each. -/
def operateAll : List Operation → Act Host Unit
  | [] => return
  | o :: rest => do
    let _ ← Act.attempt (operate sch o)
    operateAll rest

end

end Host

end MockHost
