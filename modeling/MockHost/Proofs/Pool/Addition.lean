import MockHost.Pool
import MockHost.Proofs.Network.Secluded

/-!
# Adding a Server to a Pool

A server that is new is added to a pool if nothing is in its way: a server of the pool
that has the port already, or what keeps the port from being bound. Either way the rest
of the pool and of the network stays what it is, and if something was in the way the
server is left behind without ever having listened. A server to which no client has come
is taken out of the pool again just as cleanly, and then it is closed.

## Main definitions

* `Host.obstacle?`: What is in the way of a server that is new.
* `Host.Added`, `Host.Hindered`, `Host.Besides`: What has become of a host to which a server was
  to be added.
* `Host.join`: What is left to be done for a server that has been started.

## Theorems

* `Host.start_spec`, `Host.join_spec`: A server is started, and joins the pool.
* `Host.join_of_rival`: It is closed again if another one has the port.
* `Host.add_cases`: Whatever has become of a server, it is refused, or is left to join.
* `Host.addNew_spec`: What comes of adding a server.
* `Host.remove_spec`: What comes of removing one.
-/

namespace MockHost

namespace Pool

variable {p : Pool} {port : Port}

theorem contains_eq_false : p.contains port = false ↔ ∀ e ∈ p.servers, e.1 ≠ port := by
  rw [contains, Option.isSome_eq_false_iff, Option.isNone_iff_eq_none, get?,
    List.lookup_eq_none_iff]
  refine forall₂_congr fun e _ => ?_
  rw [bne_iff_ne]
  exact ne_comm

theorem insert_servers (h : p.contains port = false) (id : ServerId) :
    (p.insert port id).servers = p.servers ++ [(port, id)] := by
  rw [insert, h]
  rfl

end Pool

namespace Host

section

variable {h : Host} {s : Server}

/-- What is in the way of a server that is new. -/
def obstacle? (h : Host) (s : Server) : Option Failure :=
  if s.port ≠ 0 && h.pool.contains s.port then some (.reported (.alreadyRegistered s.port))
  else
    match h.network.bound? s.port with
    | .ok _ => none
    | .error f => some (s.startFailure f)

theorem onNetwork_runFrom {α : Type} (a : Act Network α) (h : Host) :
    (onNetwork a).runFrom h =
      ((a.runFrom h.network).1, { h with network := (a.runFrom h.network).2 }) := rfl

/-- A port that is bound is the one that was asked for, unless the choice was left open. -/
theorem bound?_eq {n : Network} {port p : Port} (h : n.bound? port = .ok p) (hport : port ≠ 0) :
    p = port := by
  rw [Network.bound?] at h
  split at h
  · injection h
  · split at h
    · injection h
    · split at h
      · injection h
      · injection h with h
        exact h.symm

/-- A server that has been added. -/
structure Added (h : Host) (s : Server) (h' : Host) : Prop where
  servers : ∃ port a, h.network.bound? s.port = .ok port ∧
    h'.network.servers = h.network.servers.push (s.listening port a) ∧
    h'.pool.servers = h.pool.servers ++ [(port, h.network.servers.size)]
  bindFaults : h'.network.bindFaults = h.network.bindFaults

/-- What is left when something has been in the way. -/
structure Hindered (h : Host) (h' : Host) : Prop where
  servers : ∃ s', h'.network.servers = h.network.servers.push s' ∧ s'.status = .created ∧
    s'.listener = none
  pool : h'.pool = h.pool

/-- What neither of the two concerns. -/
structure Besides (h h' : Host) : Prop where
  links : h'.network.links = h.network.links
  connections : h'.network.connections = h.network.connections
  configuration : h'.configuration = h.configuration
  systemErrors : h.network.SystemErrorsAtShutdown → h'.network.SystemErrorsAtShutdown

/-- A host with one more server in its network. -/
def withServer (h : Host) (s : Server) : Host :=
  { h with network := { h.network with servers := h.network.servers.push s } }

theorem server?_withServer (h : Host) (s : Server) :
    (h.withServer s).server? h.network.servers.size = some s := by
  rw [withServer, server?, Array.getElem?_push, if_pos rfl]

theorem portOf_eq {id : ServerId} (hs : h.server? id = some s) : h.portOf id = s.port := by
  rw [portOf, hs]
  rfl

theorem portOf_withServer (h : Host) (s : Server) :
    (h.withServer s).portOf h.network.servers.size = s.port :=
  portOf_eq (server?_withServer h s)

/-- A new server has been started, or it is known why not. -/
theorem start_spec (k : Nat) (h : Host) (hs : s.New) :
    ∃ h', Besides h h' ∧ h'.pool = h.pool ∧
      match h.network.bound? s.port with
      | .ok port => (onNetwork (Network.startServer (.ofPatience k) h.network.servers.size)).runFrom
            (h.withServer s) = (.ok (), h') ∧
          (∃ a, h'.network.servers = h.network.servers.push (s.listening port a)) ∧
          h'.network.bindFaults = h.network.bindFaults
      | .error f =>
          (onNetwork (Network.startServer (.ofPatience k) h.network.servers.size)).runFrom
            (h.withServer s) = (.error (s.startFailure f), h') ∧
          h'.network.servers = h.network.servers.push { s with registry := s.registry.freeze } := by
  rcases Network.launch_spec (n := h.network) k hs with ⟨n', hlinks, hconnections, hmatch⟩
  have hages := Network.startServer_ages (Network.ages_ofPatience k) h.network.servers.size
    { h.network with servers := h.network.servers.push s }
  -- Whichever way it ends, shutting down fails as it did before.
  cases hport : h.network.bound? s.port with
  | ok port =>
      rw [hport] at hmatch
      rcases hmatch with ⟨hrun, hservers, hfaults⟩
      rw [hrun] at hages
      refine ⟨{ h with network := n' }, ⟨hlinks, hconnections, rfl, hages.systemErrors⟩, rfl, ?_,
        hservers, hfaults⟩
      rw [onNetwork_runFrom, withServer, hrun]
  | error f =>
      rw [hport] at hmatch
      rcases hmatch with ⟨hrun, hservers⟩
      rw [hrun] at hages
      refine ⟨{ h with network := n' }, ⟨hlinks, hconnections, rfl, hages.systemErrors⟩, rfl, ?_,
        hservers⟩
      rw [onNetwork_runFrom, withServer, hrun]

/-- What is left to be done for a server that has been started: it joins the pool. -/
def join (sch : Scheduler) (id : ServerId) : Act Host Unit := do
  let h ← get
  let port := h.portOf id
  if (h.pool.get? port).any (· != id) then
    closeServer sch id
    throw (.reported (.alreadyRegistered port))
  modifyPool fun p => p.insert port id
  note (.logged .info "pool_server_added"
    [.int "port" port, .nat "servers" (← get).pool.size])

section

variable (sch : Scheduler) {id : ServerId}

/-- A server joins the pool under its port, unless another one has that there. -/
theorem join_of_vacant (hvacant : (h.pool.get? (h.portOf id)).any (· != id) = false) :
    ∃ h', (join sch id).runFrom h = (.ok (), h') ∧ h'.pool = h.pool.insert (h.portOf id) id ∧
      h'.configuration = h.configuration ∧ ∃ trace, h'.network = { h.network with trace } := by
  rw [join, Act.runFrom_bind_ok (Act.runFrom_get h)]
  dsimp only
  rw [hvacant, if_neg Bool.false_ne_true, modifyPool, Act.runFrom_bind_ok (Act.runFrom_modify _ h),
    Act.runFrom_bind_ok (Act.runFrom_get _)]
  exact ⟨_, rfl, rfl, rfl, _, rfl⟩

/-- If another one has it, the server is closed again. -/
theorem join_of_rival {h' : Host} (hrival : (h.pool.get? (h.portOf id)).any (· != id) = true)
    (hclose : (closeServer sch id).runFrom h = (.ok (), h')) :
    (join sch id).runFrom h = (.error (.reported (.alreadyRegistered (h.portOf id))), h') := by
  rw [join, Act.runFrom_bind_ok (Act.runFrom_get h)]
  dsimp only
  rw [if_pos hrival, Act.runFrom_bind_ok hclose, Act.runFrom_bind_error (Act.runFrom_throw _ _)]

end

/-- A server joins the pool under its port, which nobody has there. -/
theorem join_spec (sch : Scheduler) {h' : Host} {id : ServerId} {port : Port} {s' : Server}
    (hs' : h'.network.servers[id]? = some s') (hport : s'.port = port)
    (hfree : h'.pool.contains port = false) :
    ∃ h'', (join sch id).runFrom h' = (.ok (), h'') ∧
      h''.pool.servers = h'.pool.servers ++ [(port, id)] ∧
      h''.configuration = h'.configuration ∧ ∃ trace, h''.network = { h'.network with trace } := by
  have hportOf : h'.portOf id = port := (portOf_eq hs').trans hport
  have hvacant : (h'.pool.get? (h'.portOf id)).any (· != id) = false := by
    rw [Pool.contains, Option.isSome_eq_false_iff, Option.isNone_iff_eq_none] at hfree
    rw [hportOf, hfree, Option.any_none]
  rcases join_of_vacant sch hvacant with ⟨h'', hrun, hpool, hconfiguration, hnetwork⟩
  refine ⟨h'', hrun, ?_, hconfiguration, hnetwork⟩
  rw [hpool, hportOf, Pool.insert_servers hfree]

section

variable {sch : Scheduler} {id : ServerId} {h₂ : Host} {f : Failure}

/-- A port that the pool has already is refused at once. -/
theorem add_of_taken (sch : Scheduler) {h : Host}
    (htaken : (h.portOf id ≠ 0 && h.pool.contains (h.portOf id)) = true) :
    (add sch id).runFrom h = (.error (.reported (.alreadyRegistered (h.portOf id))), h) := by
  rw [add, Act.runFrom_bind_ok (Act.runFrom_get h)]
  dsimp only
  rw [if_pos htaken, Act.runFrom_bind_error (Act.runFrom_throw _ _)]

/-- Otherwise the server is started, and what keeps it from that keeps it from the pool. -/
theorem add_of_error (hfree : ¬ (h.portOf id ≠ 0 && h.pool.contains (h.portOf id)) = true)
    (hcreated : (h.server? id).map Server.status = some .created)
    (hstart : (onNetwork (Network.startServer sch id)).runFrom h = (.error f, h₂)) :
    (add sch id).runFrom h = (.error f, h₂) := by
  rw [add, Act.runFrom_bind_ok (Act.runFrom_get h)]
  dsimp only
  rw [if_neg hfree, if_pos hcreated, Act.runFrom_bind_error hstart]

/-- A server that has been started before is not started again. -/
theorem add_of_begun {h : Host}
    (hfree : ¬ (h.portOf id ≠ 0 && h.pool.contains (h.portOf id)) = true)
    (hbegun : (h.server? id).map Server.status ≠ some .created) :
    (add sch id).runFrom h = (join sch id).runFrom h := by
  rw [add, Act.runFrom_bind_ok (Act.runFrom_get h)]
  dsimp only
  rw [if_neg hfree, if_neg hbegun]
  rfl

theorem add_of_ok (hfree : ¬ (h.portOf id ≠ 0 && h.pool.contains (h.portOf id)) = true)
    (hcreated : (h.server? id).map Server.status = some .created)
    (hstart : (onNetwork (Network.startServer sch id)).runFrom h = (.ok (), h₂)) :
    (add sch id).runFrom h = (join sch id).runFrom h₂ := by
  rw [add, Act.runFrom_bind_ok (Act.runFrom_get h)]
  dsimp only
  rw [if_neg hfree, if_pos hcreated, Act.runFrom_bind_ok hstart]
  rfl

end

/-- A server that is to be added is refused, and has not been started if it had not been, or it is
    left to join. Then it is what it was, or it has been started and is open. -/
theorem add_cases (k : Nat) {id : ServerId} (hs : h.server? id = some s) :
    (∃ f h', (add (.ofPatience k) id).runFrom h = (.error f, h') ∧
      Network.Ages h.network h'.network ∧ h'.pool = h.pool ∧
      (s.status = .created → ∃ s', h'.server? id = some s' ∧ s'.status = .created)) ∨
    ∃ h₁ s₁, (add (.ofPatience k) id).runFrom h = (join (.ofPatience k) id).runFrom h₁ ∧
      Network.Ages h.network h₁.network ∧ h₁.pool = h.pool ∧ h₁.server? id = some s₁ ∧
      (s.status = .created → s₁.status = .opened) ∧ (s.status ≠ .created → h₁ = h ∧ s₁ = s) := by
  by_cases htaken : (h.portOf id ≠ 0 && h.pool.contains (h.portOf id)) = true
  · -- Nothing has been done yet.
    exact .inl ⟨_, h, add_of_taken (.ofPatience k) htaken, Network.ages_path.refl _, rfl,
      fun hcreated => ⟨s, hs, hcreated⟩⟩
  by_cases hcreated : s.status = .created
  · have hstatus : (h.server? id).map Server.status = some .created := by
      rw [hs, Option.map_some, hcreated]
    have hages := Network.startServer_ages (Network.ages_ofPatience k) id h.network
    have hstart := onNetwork_runFrom (Network.startServer (.ofPatience k) id) h
    cases hbound : h.network.bound? s.port with
    | error g =>
        rcases Network.startServer_refused (.ofPatience k) hs hcreated hbound with ⟨faults, hrun⟩
        rw [hrun] at hages hstart
        refine .inl ⟨_, _, add_of_error htaken hstatus hstart, hages, rfl,
          fun _ => ⟨{ s with registry := s.registry.freeze }, ?_, hcreated⟩⟩
        rw [server?, Network.freezing, Array.getElem?_modify, if_pos rfl]
        exact congrArg _ hs
    | ok port =>
        rcases Network.startServer_listens k hs hcreated hbound with ⟨n₁, a, hrun, hservers, -⟩
        rw [hrun] at hages hstart
        refine .inr ⟨_, s.listening port a, add_of_ok htaken hstatus hstart, hages, rfl, ?_,
          fun _ => rfl, fun h => (h hcreated).elim⟩
        rw [server?, hservers, Array.getElem?_modify, if_pos rfl]
        exact congrArg _ hs
  · have hstatus : (h.server? id).map Server.status ≠ some .created := by
      rw [hs, Option.map_some]
      exact fun h => hcreated (Option.some_inj.mp h)
    exact .inr ⟨h, s, add_of_begun htaken hstatus, Network.ages_path.refl _, rfl, hs,
      fun h => (hcreated h).elim, fun _ => ⟨rfl, rfl⟩⟩

/-- What a server that is to be added comes to is what the new server comes to. -/
theorem addNew_eq (sch : Scheduler) (h : Host) (s : Server) : (addNew sch s).runFrom h =
    (do
      add sch h.network.servers.size
      return h.network.servers.size : Act Host ServerId).runFrom (h.withServer s) := rfl

/-- A new server is added to the pool under its port, unless there is something in the way. -/
theorem addNew_spec (k : Nat) (h : Host) (hs : s.New) (hfirst : s.port = 0 → h.pool.servers = []) :
    ∃ h', Besides h h' ∧
      match h.obstacle? s with
      | none => (addNew (.ofPatience k) s).runFrom h = (.ok h.network.servers.size, h') ∧ Added h s h'
      | some f => (addNew (.ofPatience k) s).runFrom h = (.error f, h') ∧ Hindered h h' := by
  have hport := portOf_withServer h s
  have hcreated : ((h.withServer s).server? h.network.servers.size).map Server.status =
      some .created := by
    rw [server?_withServer, Option.map_some, hs.status]
  rw [addNew_eq, obstacle?]
  by_cases htaken : (s.port ≠ 0 && h.pool.contains s.port) = true
  · have hrun := add_of_taken (.ofPatience k) (h := h.withServer s) (by rwa [hport])
    rw [hport] at hrun
    rw [if_pos htaken]
    exact ⟨h.withServer s, ⟨rfl, rfl, rfl, id⟩, Act.runFrom_bind_error hrun _,
      ⟨s, rfl, hs.status, hs.listener⟩, rfl⟩
  · have hfree : ¬ ((h.withServer s).portOf h.network.servers.size ≠ 0 &&
        (h.withServer s).pool.contains ((h.withServer s).portOf h.network.servers.size)) = true := by
      rwa [hport]
    -- The pool does not have the port, so the server is started.
    rcases start_spec k h hs with ⟨h₂, hbesides, hpool₂, hmatch⟩
    rw [if_neg htaken]
    cases hbound : h.network.bound? s.port with
    | error f =>
        rw [hbound] at hmatch
        exact ⟨h₂, hbesides, Act.runFrom_bind_error (add_of_error hfree hcreated hmatch.1) _,
          ⟨_, hmatch.2, hs.status, hs.listener⟩, hpool₂⟩
    | ok port =>
        rw [hbound] at hmatch
        rcases hmatch with ⟨hstart, ⟨a, hservers⟩, hfaults⟩
        -- A port that was asked for has been looked up; one that was chosen is new to any pool
        -- only if the pool is empty.
        have hvacant : h₂.pool.contains port = false := by
          rw [hpool₂]
          by_cases hzero : s.port = 0
          · rw [Pool.contains_eq_false, hfirst hzero]
            exact fun e he => (List.not_mem_nil he).elim
          · rw [bound?_eq hbound hzero]
            rw [Bool.and_eq_true, decide_eq_true_eq, not_and, Bool.not_eq_true] at htaken
            exact htaken hzero
        have hs₂ : h₂.network.servers[h.network.servers.size]? = some (s.listening port a) := by
          rw [hservers, Array.getElem?_push, if_pos rfl]
        rcases join_spec (.ofPatience k) hs₂ rfl hvacant with
          ⟨h', hjoin, hpool', hconfiguration, trace, hnetwork⟩
        have hadd := (add_of_ok hfree hcreated hstart).trans hjoin
        refine ⟨h', ⟨?_, ?_, hconfiguration.trans hbesides.configuration, fun hn => ?_⟩,
          Act.runFrom_bind_ok hadd _, ⟨port, a, hbound, ?_, ?_⟩, ?_⟩
        · rw [hnetwork]
          exact hbesides.links
        · rw [hnetwork]
          exact hbesides.connections
        · rw [hnetwork]
          exact hbesides.systemErrors hn
        · rw [hnetwork]
          exact hservers
        · rw [hpool', hpool₂]
          rfl
        · rw [hnetwork]
          exact hfaults

/-- A server of the pool to which no client has come is taken out of it and closed, and nothing
    else changes. -/
theorem remove_spec (k : Nat) {port : Port} {id : ServerId} (hget : h.pool.get? port = some id)
    (hs : h.network.servers[id]? = some s) (hlonely : s.Lonely) (hsealed : s.Sealed)
    (hfree : s.closeUnderWay = false) (herrors : h.network.SystemErrorsAtShutdown) :
    ∃ h' s', (remove (.ofPatience k) port).runFrom h = (.ok (some id), h') ∧
      h'.pool = h.pool.erase port ∧ h'.configuration = h.configuration ∧
      Network.Apart id h.network h'.network ∧ h'.network.SystemErrorsAtShutdown ∧
      h'.network.servers[id]? = some s' ∧ s'.status = .closed ∧ s'.listener.isSome = false := by
  rcases Network.closeServer_closes k hs hfree hsealed herrors with
    ⟨n', s', hrun, hages, hs', hstatus, hdeaf⟩
  have hsecluded : h.network.Secluded id := by
    intro t ht
    cases hs.symm.trans ht
    exact hlonely
  have hapart := Network.closeServer_apart k hsecluded
  rw [hrun] at hapart
  refine ⟨{ h with pool := h.pool.erase port, network := n' }, s', ?_, rfl, rfl, hapart,
    hages.systemErrors herrors, hs', hstatus, hdeaf⟩
  rw [remove, Act.runFrom_bind_ok (Act.runFrom_get h), hget]
  dsimp only
  rw [modifyPool, Act.runFrom_bind_ok (Act.runFrom_modify _ h), closeServer,
    Act.runFrom_bind_ok (x := ()) (by rw [onNetwork_runFrom, hrun])]
  rfl

end

end Host

end MockHost
