import MockHost.Pool.Operation
import MockHost.Proofs.Pool.Launching

/-!
# What a Pool Does to Its Servers

Whatever is done with a pool, its servers and those that it has never heard of only go
on: they are created, started and closed, and nobody is left in the middle of closing
one. So all that is known of servers when others act is known of them when a pool does.

## Main definitions

* `Host.Aged`: The servers have only gone on.

## Theorems

* `Host.bootstrap_aged`: All servers of a configuration.
* `Host.operate_aged`: Everything that may be done with a pool.
-/

namespace MockHost

open Act (Moves)

namespace Host

/-- The servers have only gone on. -/
def Aged (h h' : Host) : Prop := Network.Ages h.network h'.network

theorem aged_path : Act.Path Aged where
  refl h := Network.ages_path.refl h.network
  trans := Network.ages_path.trans

theorem onNetwork_aged {α : Type} {a : Act Network α} (ha : Moves Network.Ages a) :
    Moves Aged (onNetwork a) :=
  Moves.within ha fun _ _ hn => hn

theorem onConfiguration_aged {α : Type} (a : Act Configuration α) :
    Moves Aged (onConfiguration a) :=
  fun _ => Network.ages_of_phases rfl rfl

theorem note_aged (o : Occurrence) : Moves Aged (note o) :=
  onNetwork_aged (Network.ages_passable.note_moves o)

theorem modifyPool_aged (f : Pool → Pool) : Moves Aged (modifyPool f) :=
  Moves.modify fun h => Network.ages_path.refl h.network

section

variable (k : Nat)

theorem closeServer_aged (id : ServerId) : Moves Aged (closeServer (.ofPatience k) id) :=
  onNetwork_aged (Network.closeServer_ages (Network.ages_ofPatience k)
    (Scheduler.reliable_ofPatience k) id)

theorem startServer_aged (id : ServerId) :
    Moves Aged (onNetwork (Network.startServer (.ofPatience k) id)) :=
  onNetwork_aged (Network.startServer_ages (Network.ages_ofPatience k) id)

/-! ### One server -/

theorem join_aged (id : ServerId) : Moves Aged (join (.ofPatience k) id) := by
  refine Moves.bind aged_path (Moves.get aged_path) fun h => ?_
  have hjoin : Moves Aged (do
      modifyPool fun p => p.insert (h.portOf id) id
      note (.logged .info "pool_server_added"
        [.int "port" (h.portOf id), .nat "servers" (← get).pool.size])) :=
    Moves.bind aged_path (modifyPool_aged _) fun _ =>
      Moves.bind aged_path (Moves.get aged_path) fun _ => note_aged _
  exact Moves.ifThen aged_path (closeServer_aged k id)
    (fun _ => Moves.bind aged_path (Moves.throw aged_path _) fun _ => hjoin) hjoin

theorem add_aged (id : ServerId) : Moves Aged (add (.ofPatience k) id) := by
  refine Moves.bind aged_path (Moves.get aged_path) fun h => Moves.unless aged_path ?_
  exact Moves.ifThen aged_path (startServer_aged k id) (fun _ => join_aged k id) (join_aged k id)

theorem addNew_aged {s : Server} (hs : s.Idle) : Moves Aged (addNew (.ofPatience k) s) := by
  refine Moves.bind aged_path (onNetwork_aged (Network.addServer_ages hs)) fun id => ?_
  exact Moves.bind aged_path (add_aged k id) fun _ => Moves.pure aged_path id

theorem remove_aged (port : Port) : Moves Aged (remove (.ofPatience k) port) := by
  refine Moves.bind aged_path (Moves.get aged_path) fun h => ?_
  split
  · exact Moves.pure aged_path _
  · refine Moves.bind aged_path (modifyPool_aged _) fun _ => ?_
    exact Moves.bind aged_path (closeServer_aged k _) fun _ => Moves.pure aged_path _

/-! ### Several servers -/

theorem closeServers_aged (ids : List ServerId) :
    Moves Aged (closeServers (.ofPatience k) ids) := by
  induction ids with
  | nil => exact Moves.pure aged_path _
  | cons id rest ih => exact Moves.bind aged_path (closeServer_aged k id) fun _ => ih

theorem shutdown_aged : Moves Aged (shutdown (.ofPatience k)) := by
  refine Moves.bind aged_path (Moves.get aged_path) fun h => ?_
  refine Moves.bind aged_path (modifyPool_aged _) fun _ => ?_
  refine Moves.bind aged_path (closeServers_aged k _) fun _ => ?_
  exact Moves.bind aged_path (modifyPool_aged _) fun _ => note_aged _

theorem addPorts_aged {make : Port → Registry → Server} (hmake : ∀ p r, (make p r).Idle)
    (started : List ServerId) (ports : List Port) :
    Moves Aged (addPorts (.ofPatience k) make started ports) := by
  induction ports generalizing started with
  | nil => exact Moves.pure aged_path _
  | cons port rest ih =>
      have hadd : Moves Aged (addPort (.ofPatience k) make port) :=
        Moves.bind aged_path (onConfiguration_aged _) fun r => addNew_aged k (hmake port r)
      refine Moves.bind aged_path hadd.attempt fun added => ?_
      split
      · exact ih _
      · exact Moves.pure aged_path _

theorem removeAll_aged (ids : List ServerId) : Moves Aged (removeAll (.ofPatience k) ids) := by
  induction ids with
  | nil => exact Moves.pure aged_path _
  | cons id rest ih =>
      refine Moves.bind aged_path (Moves.get aged_path) fun h => ?_
      exact Moves.bind aged_path (remove_aged k _) fun _ => ih

theorem bootstrap_aged {make : Port → Registry → Server} (hmake : ∀ p r, (make p r).Idle) :
    Moves Aged (bootstrap (.ofPatience k) make) := by
  have hkept : ∀ started : List ServerId, Moves Aged (do
      note (.logged .info "pool_bootstrapped" [portsField "ports" (← get) started])
      return started : Act Host (List ServerId)) := by
    intro started
    refine Moves.bind aged_path (Moves.get aged_path) fun h => ?_
    exact Moves.bind aged_path (note_aged _) fun _ => Moves.pure aged_path _
  have hremoved : ∀ (started : List ServerId) (f : Failure), Moves Aged (do
      note (.logged .error "pool_bootstrap_failed" [portsField "started" (← get) started])
      removeAll (.ofPatience k) started
      throw f : Act Host (List ServerId)) := by
    intro started f
    refine Moves.bind aged_path (Moves.get aged_path) fun h => ?_
    refine Moves.bind aged_path (note_aged _) fun _ => ?_
    exact Moves.bind aged_path (removeAll_aged k started) fun _ => Moves.throw aged_path f
  refine Moves.bind aged_path (onConfiguration_aged _).attempt fun ports => ?_
  cases ports with
  | error f => exact hremoved [] f
  | ok ports =>
      refine Moves.bind aged_path (addPorts_aged k hmake [] ports) fun x => ?_
      rcases x with ⟨started, f | _⟩
      · exact hremoved started f
      · exact hkept started

/-- Everything that may be done with a pool. -/
theorem operate_aged {o : Operation}
    (ho : ∀ port f, o = .network (.failShutdown port f) → ∃ e, f = .system e) :
    Moves Aged (operate (.ofPatience k) o) := by
  cases o with
  | addPort port =>
      refine Moves.bind aged_path (Moves.get aged_path) fun h => ?_
      exact Moves.bind aged_path (addNew_aged k (Network.idle_create ..)) fun _ =>
        Moves.pure aged_path _
  | add id =>
      refine Moves.bind aged_path (Moves.get aged_path) fun h => ?_
      split
      · exact add_aged k id
      · exact Moves.pure aged_path _
  | remove port => exact Moves.bind aged_path (remove_aged k port) fun _ => Moves.pure aged_path _
  | bootstrap configuration host behavior hooks =>
      refine Moves.bind aged_path (Moves.get aged_path) fun h => ?_
      refine Moves.bind aged_path
        (Moves.modify fun h : Host => Network.ages_path.refl h.network) fun _ => ?_
      exact Moves.bind aged_path (bootstrap_aged k fun _ _ => Network.idle_create ..) fun _ =>
        Moves.pure aged_path _
  | shutdown => exact shutdown_aged k
  | network o =>
      exact onNetwork_aged (Network.operate_ages k fun port f hfail => ho port f (hfail ▸ rfl))

end

end Host

end MockHost
