import MockHost.Proofs.Pool.Launching

/-!
# Closing All Servers of a Pool

When a pool is shut down its servers are closed one after another. Each of them can be
closed, whatever has become of it since it was added, and once it is closed it stays so
while the others are. In the end the pool is empty, and none of its servers listens.

## Main definitions

* `Host.Closable`: Every server of the pool can be closed.
* `Host.Shut`: A server is closed and does not listen.

## Theorems

* `Host.Closable.ages`: Whatever happens in the network, the servers can be closed.
* `Host.closeServer_spec`, `Host.closeServers_spec`: Servers are closed, one after another.
* `Host.shutdown_spec`, `Host.shutdown_empty`: What comes of shutting down a pool.
-/

namespace MockHost

namespace Host

/-- A server of this number is closed and does not listen. -/
def Shut (h : Host) (id : ServerId) : Prop :=
  ∃ s, h.server? id = some s ∧ s.status = .closed ∧ s.listener.isSome = false

/-- A server of this number can be closed. -/
def Ready (h : Host) (id : ServerId) : Prop :=
  ∃ s, h.server? id = some s ∧ s.closeUnderWay = false ∧ s.Sealed

/-- Every server of the pool can be closed. -/
structure Closable (h : Host) : Prop where
  ready : ∀ id ∈ h.pool.members, h.Ready id
  systemErrors : h.network.SystemErrorsAtShutdown

section

variable {h h' : Host} {id : ServerId}

theorem Shut.ages (hs : h.Shut id) (hages : Network.Ages h.network h'.network) : h'.Shut id := by
  rcases hs with ⟨s, hs, hstatus, hdeaf⟩
  rcases hages.servers hs with ⟨s', hs', hss'⟩
  have hbegun : s.status ≠ .created := fun hcreated => by
    injection hstatus.symm.trans hcreated
  exact ⟨s', hs', hss'.closed hstatus, hss'.deaf hbegun hdeaf⟩

theorem Ready.ages (hs : h.Ready id) (hages : Network.Ages h.network h'.network) :
    h'.Ready id := by
  rcases hs with ⟨s, hs, hfree, hsealed⟩
  rcases hages.servers hs with ⟨s', hs', hss'⟩
  exact ⟨s', hs', hss'.underWay.trans hfree, hss'.sealed hsealed⟩

theorem Quiet.ages (hquiet : Quiet h h') : Network.Ages h.network h'.network := by
  rcases hquiet.network with ⟨trace, hnetwork⟩
  rw [hnetwork]
  exact Network.ages_of_phases rfl rfl

/-- Whatever happens in the network, the servers of the pool can be closed. -/
theorem Closable.ages (hh : h.Closable) (hages : Network.Ages h.network h'.network)
    (hpool : h'.pool = h.pool) : h'.Closable where
  ready id hid := (hh.ready id (hpool ▸ hid)).ages hages
  systemErrors := hages.systemErrors hh.systemErrors

/-- A server that can be closed is. -/
theorem closeServer_spec (k : Nat) (hready : h.Ready id)
    (herrors : h.network.SystemErrorsAtShutdown) :
    ∃ h', (closeServer (.ofPatience k) id).runFrom h = (.ok (), h') ∧
      Network.Ages h.network h'.network ∧ h'.pool = h.pool ∧ h'.Shut id := by
  rcases hready with ⟨s, hs, hfree, hsealed⟩
  rcases Network.closeServer_closes k hs hfree hsealed herrors with
    ⟨n', s', hclose, hages, hs', hstatus, hdeaf⟩
  refine ⟨{ h with network := n' }, ?_, hages, rfl, s', hs', hstatus, hdeaf⟩
  rw [closeServer, onNetwork_runFrom, hclose]

/-- Servers that can be closed are closed one after another. -/
theorem closeServers_spec (k : Nat) (ids : List ServerId) (hready : ∀ id ∈ ids, h.Ready id)
    (herrors : h.network.SystemErrorsAtShutdown) :
    ∃ h', (closeServers (.ofPatience k) ids).runFrom h = (.ok (), h') ∧
      Network.Ages h.network h'.network ∧ h'.pool = h.pool ∧ ∀ id ∈ ids, h'.Shut id := by
  -- On the servers that are left. The others may do anything while one of them is closed, but none
  -- of them becomes one that cannot be closed any more.
  induction ids generalizing h with
  | nil =>
      exact ⟨h, rfl, Network.ages_path.refl h.network, rfl,
        fun _ hid => (List.not_mem_nil hid).elim⟩
  | cons id ids ih =>
      rcases closeServer_spec k (hready id List.mem_cons_self) herrors with
        ⟨h₁, hrun, hages₁, hpool₁, hshut₁⟩
      have hready₁ : ∀ id ∈ ids, h₁.Ready id :=
        fun j hj => (hready j (List.mem_cons_of_mem id hj)).ages hages₁
      rcases ih hready₁ (hages₁.systemErrors herrors) with ⟨h₂, hrest, hages₂, hpool₂, hshut₂⟩
      refine ⟨h₂, ?_, Network.ages_path.trans hages₁ hages₂, hpool₂.trans hpool₁, fun j hj => ?_⟩
      · rw [closeServers, Act.runFrom_bind_ok hrun, hrest]
      · rcases List.mem_cons.mp hj with rfl | hj
        · -- It has been closed first, and stays so while the others are closed.
          exact hshut₁.ages hages₂
        · exact hshut₂ j hj

/-- In the end the pool is empty and none of the servers that it had listens. -/
theorem shutdown_spec (k : Nat) (hh : h.Closable) :
    ∃ h', (shutdown (.ofPatience k)).runFrom h = (.ok (), h') ∧ h'.pool.servers = [] ∧
      ∀ id ∈ h.pool.members, h'.Shut id := by
  have hempty : (modifyPool fun p => { p with servers := [] }).runFrom h =
      (.ok (), { h with pool := { h.pool with servers := [] } }) := rfl
  -- The pool is emptied before its servers are closed.
  have hready : ∀ id ∈ h.pool.members,
      ({ h with pool := { h.pool with servers := [] } } : Host).Ready id := hh.ready
  rcases closeServers_spec k h.pool.members hready hh.systemErrors with
    ⟨h₁, hclose, -, hpool, hshut⟩
  have hstopped : (modifyPool fun p => { p with stopped := true }).runFrom h₁ =
      (.ok (), { h₁ with pool := { h₁.pool with stopped := true } }) := rfl
  rw [shutdown, Act.runFrom_bind_ok (Act.runFrom_get h)]
  dsimp only
  rw [Act.runFrom_bind_ok hempty, Act.runFrom_bind_ok hclose, Act.runFrom_bind_ok hstopped]
  refine ⟨_, rfl, ?_, hshut⟩
  exact congrArg Pool.servers hpool

/-- Where the pool is empty, nothing is closed. -/
theorem shutdown_empty (sch : Scheduler) (hpool : h.pool.servers = []) :
    ∃ h', (shutdown sch).runFrom h = (.ok (), h') ∧ h'.pool.servers = [] ∧
      ∃ trace, h'.network = { h.network with trace } := by
  have hmembers : h.pool.members = [] := by rw [Pool.members, hpool]; rfl
  rw [shutdown, Act.runFrom_bind_ok (Act.runFrom_get h)]
  dsimp only
  rw [hmembers]
  exact ⟨_, rfl, rfl, _, rfl⟩

end

end Host

end MockHost
