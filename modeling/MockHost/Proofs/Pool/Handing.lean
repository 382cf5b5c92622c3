import MockHost.Proofs.Pool.Ownership

/-!
# Handing Back a Server

Whoever adds a server to a pool is handed it back, and the pool has it on its port. A server that
had not been started listens then, and one that had been started is what it was. So it is open
unless it had been closed before: a server that is closed is taken into the pool all the same,
since nothing but whether it has been started is looked at.

If adding fails, the pool is what it was. A server that has been started for it has been closed
again.

## Main definitions

* `Host.Handed`: What adding a server comes to.

## Theorems

* `Pool.get?_insert`: What has been put on a port is what the pool has there.
* `Host.join_handed`, `Host.add_handed`: A server joins, and is added.
* `Host.add_hands`: Servers in any state, and new ones for a port.
-/

namespace MockHost

namespace Pool

/-- What has been put on a port is what the pool has there. -/
theorem get?_insert (p : Pool) (port : Port) (id : ServerId) :
    (p.insert port id).get? port = some id := by
  rw [get?, insert]
  by_cases hcontains : p.contains port = true
  · rw [if_pos hcontains]
    rw [contains, get?] at hcontains
    -- On the entries, of which the first one on the port is what is looked up.
    generalize p.servers = entries at hcontains
    induction entries with
    | nil => injection hcontains
    | cons e rest ih =>
        rw [List.map_cons]
        by_cases hport : e.1 = port
        · rw [if_pos hport, List.lookup_cons_self]
        · have hne : (port == e.1) = false := beq_eq_false_iff_ne.mpr (Ne.symm hport)
          rw [List.lookup_cons, hne] at hcontains
          rw [if_neg hport, List.lookup_cons, hne]
          exact ih hcontains
  · rw [Bool.not_eq_true] at hcontains
    have hnone : p.servers.lookup port = none :=
      Option.isNone_iff_eq_none.mp (Option.isSome_eq_false_iff.mp hcontains)
    rw [hcontains, if_neg Bool.false_ne_true, List.lookup_append, hnone, List.lookup_cons_self]
    rfl

end Pool

namespace Host

/-- What adding a server comes to. If it succeeds, the pool has the server on its port, which is
    open if it was or had not been started, and the server that it was otherwise. If it fails, the
    pool is what it was, and a server that had not been started either has not been or is closed. -/
structure Handed (h : Host) (id : ServerId) (s : Server) (r : Except Failure Unit) (h' : Host) :
    Prop where
  ok : r = .ok () → ∃ s', h'.server? id = some s' ∧ h'.pool.get? s'.port = some id ∧
    (s'.status = .opened ↔ s.status = .created ∨ s.status = .opened) ∧
    (s.status ≠ .created → s' = s)
  error : ∀ f, r = .error f → h'.pool.servers = h.pool.servers ∧
    (s.status = .created →
      (∃ s', h'.server? id = some s' ∧ s'.status = .created) ∨ h'.Shut id)

section

variable {h h₁ : Host} {id : ServerId} {s s₁ : Server}

/-- A server that has been started joins the pool as it is, or is closed again. -/
theorem join_handed (k : Nat) (hrest : h₁.network.AtRest) (hs₁ : h₁.server? id = some s₁) :
    ∃ r h', (join (.ofPatience k) id).runFrom h₁ = (r, h') ∧
      (r = .ok () → h'.server? id = some s₁ ∧ h'.pool.get? s₁.port = some id) ∧
      ∀ f, r = .error f → h'.pool = h₁.pool ∧ h'.Shut id := by
  by_cases hrival : (h₁.pool.get? (h₁.portOf id)).any (· != id) = true
  · have hready : h₁.Ready id := ⟨s₁, hs₁, (hrest.idle hs₁).free, (hrest.idle hs₁).sealed⟩
    rcases closeServer_spec k hready hrest.systemErrors with ⟨h', hclose, -, hpool, hshut⟩
    exact ⟨_, h', join_of_rival _ hrival hclose, fun h => by injection h, fun _ _ => ⟨hpool, hshut⟩⟩
  · rw [Bool.not_eq_true] at hrival
    rcases join_of_vacant (.ofPatience k) hrival with ⟨h', hrun, hpool, -, trace, hnetwork⟩
    refine ⟨_, h', hrun, fun _ => ⟨?_, ?_⟩, fun f h => by injection h⟩
    · rw [server?, hnetwork]
      exact hs₁
    · rw [hpool, portOf_eq hs₁, Pool.get?_insert]

/-- What adding a server comes to, whatever has become of it before. -/
theorem add_handed (k : Nat) (hrest : h.network.AtRest) (hs : h.server? id = some s) :
    ∃ r h', (add (.ofPatience k) id).runFrom h = (r, h') ∧ Handed h id s r h' := by
  rcases add_cases k hs with
    ⟨f, h', hrun, -, hpool, hfate⟩ | ⟨h₁, s₁, hrun, hages, hpool, hs₁, hopened, hsame⟩
  · exact ⟨_, h', hrun, fun h => by injection h,
      fun _ _ => ⟨congrArg Pool.servers hpool, fun hcreated => .inl (hfate hcreated)⟩⟩
  · -- It has been started, and whether it may stay is all that is left to be seen.
    rcases join_handed k (hrest.ages hages) hs₁ with ⟨r, h', hjoin, hok, herror⟩
    refine ⟨r, h', hrun.trans hjoin, fun hr => ?_, fun f hf => ?_⟩
    · rcases hok hr with ⟨hs', hget⟩
      refine ⟨s₁, hs', hget, ?_, fun hbegun => (hsame hbegun).2⟩
      by_cases hcreated : s.status = .created
      · exact ⟨fun _ => .inl hcreated, fun _ => hopened hcreated⟩
      · rw [(hsame hcreated).2]
        exact ⟨.inr, fun h => h.resolve_left hcreated⟩
    · rcases herror f hf with ⟨hpool', hshut⟩
      exact ⟨congrArg Pool.servers (hpool'.trans hpool), fun _ => .inr hshut⟩

/-- A server in any state, or a new one for a port, is handed back open unless it had been closed,
    and the pool has it on its port. If adding it fails, the pool is what it was, and what has been
    started for it is closed again. -/
theorem add_hands (k : Nat) (hrest : h.network.AtRest) :
    (∀ id s, h.server? id = some s →
      ∃ r h', (add (.ofPatience k) id).runFrom h = (r, h') ∧ Handed h id s r h') ∧
    ∀ settings port, ∃ r h',
      (addNew (.ofPatience k) (Server.create settings (some port))).runFrom h = (r, h') ∧
      (∀ id, r = .ok id → ∃ s, h'.server? id = some s ∧ h'.pool.get? s.port = some id ∧
        s.status = .opened) ∧
      ∀ f, r = .error f → h'.pool.servers = h.pool.servers ∧
        ((∃ s, h'.server? h.network.servers.size = some s ∧ s.status = .created) ∨
          h'.Shut h.network.servers.size) := by
  refine ⟨fun id s hs => add_handed k hrest hs, fun settings port => ?_⟩
  have hidle : (Server.create settings (some port)).Idle := ⟨rfl, fun h => by injection h⟩
  have hrest₁ : (h.withServer (Server.create settings (some port))).network.AtRest :=
    hrest.ages (Network.addServer_ages hidle h.network)
  rcases add_handed k hrest₁ (server?_withServer h _) with ⟨r, h', hrun, hok, herror⟩
  rw [addNew_eq, Act.runFrom_bind, hrun]
  cases r with
  | error f =>
      rcases herror f rfl with ⟨hpool, hfate⟩
      exact ⟨_, h', rfl, fun id h => by injection h, fun _ _ => ⟨hpool, hfate rfl⟩⟩
  | ok _ =>
      rcases hok rfl with ⟨s, hs, hget, hopened, -⟩
      refine ⟨_, h', rfl, fun id hid => ?_, fun f h => by injection h⟩
      injection hid with hid
      exact hid ▸ ⟨s, hs, hget, hopened.mpr (.inl rfl)⟩

/-- The port that is chosen for a server is one that the pool has, so the server is closed again,
    while another one that has not been started is handed back open. -/
theorem add_hands_chosen :
    let settings : Settings := .usual ""
    let server (port : Port) : Server := Server.create settings (some port)
    let other : Server := { server 40001 with status := .opened, listener := some {} }
    let h : Host :=
      { network := { settings, servers := #[other, server 0, server 7001] }
        configuration := Configuration.create settings ⟨[], [], []⟩ none none
        pool := { servers := [(40001, 0)] } }
    h.network.AtRest ∧
      (∃ f h', (add (.ofPatience 1) 1).runFrom h = (.error f, h') ∧
        h'.pool.servers = [(40001, 0)] ∧ h'.Shut 1) ∧
      ∃ h' s, (add (.ofPatience 1) 2).runFrom h = (.ok (), h') ∧ h'.server? 2 = some s ∧
        s.status = .opened ∧ h'.pool.get? s.port = some 2 := by
  intro settings server other h
  have hrest : h.network.AtRest := by
    refine ⟨fun {id s} hs => ?_, fun x hx => (List.not_mem_nil hx).elim⟩
    have hmem : s ∈ [other, server 0, server 7001] :=
      Array.mem_toList_iff.mpr (Array.mem_of_getElem? hs)
    simp only [List.mem_cons, List.not_mem_nil, or_false] at hmem
    rcases hmem with rfl | rfl | rfl
    all_goals exact ⟨rfl, fun h => by injection h⟩
  have hhands := (add_hands 1 hrest).1
  refine ⟨hrest, ?_, ?_⟩
  · rcases hhands 1 (server 0) rfl with ⟨r, h', hrun, hok, herror⟩
    have hfailed : ((add (.ofPatience 1) 1).runFrom h).1.toOption = none := by decide +kernel
    have hstarted : (((add (.ofPatience 1) 1).runFrom h).2.server? 1).map Server.status ≠
        some .created := by decide +kernel
    rw [hrun] at hfailed hstarted
    cases r with
    | ok _ => injection hfailed
    | error f =>
        rcases herror f rfl with ⟨hpool, hfate⟩
        refine ⟨f, h', hrun, hpool, (hfate rfl).resolve_left ?_⟩
        rintro ⟨s, hs, hcreated⟩
        rw [hs, Option.map_some, hcreated] at hstarted
        exact hstarted rfl
  · rcases hhands 2 (server 7001) rfl with ⟨r, h', hrun, hok, -⟩
    have hsucceeded : ((add (.ofPatience 1) 2).runFrom h).1.toOption = some () := by decide +kernel
    rw [hrun] at hsucceeded
    cases r with
    | error f => injection hsucceeded
    | ok _ =>
        rcases hok rfl with ⟨s, hs, hget, hopened, -⟩
        exact ⟨h', s, hrun, hs, hopened.mpr (.inl rfl), hget⟩

/-- A server that has been started and closed is taken into the pool and handed back closed. -/
theorem add_hands_closed :
    let settings : Settings := .usual ""
    let h : Host :=
      { network := { settings, servers := #[Server.create settings (some 7001)] }
        configuration := Configuration.create settings ⟨[], [], []⟩ none none }
    let used : Act Host Unit := do
      onNetwork (Network.startServer (.ofPatience 1) 0)
      closeServer (.ofPatience 1) 0
    ∃ h₁ h', used.runFrom h = (.ok (), h₁) ∧ (add (.ofPatience 1) 0).runFrom h₁ = (.ok (), h') ∧
      h'.pool.get? 7001 = some 0 ∧ ∃ s, h'.server? 0 = some s ∧ s.status = .closed := by
  intro settings h used
  have hused : (used.runFrom h).1.toOption = some () := by decide +kernel
  have hadded : ((add (.ofPatience 1) 0).runFrom (used.runFrom h).2).1.toOption = some () := by
    decide +kernel
  have hpool : ((add (.ofPatience 1) 0).runFrom (used.runFrom h).2).2.pool.get? 7001 = some 0 := by
    decide +kernel
  have hclosed : (((add (.ofPatience 1) 0).runFrom (used.runFrom h).2).2.server? 0).map
      Server.status = some .closed := by decide +kernel
  rcases hrun : used.runFrom h with ⟨r, h₁⟩
  rw [hrun] at hused hadded hpool hclosed
  rcases hadd : (add (.ofPatience 1) 0).runFrom h₁ with ⟨r', h'⟩
  rw [hadd] at hadded hpool hclosed
  cases r with
  | error _ => injection hused
  | ok _ =>
      cases r' with
      | error _ => injection hadded
      | ok _ => exact ⟨h₁, h', rfl, hadd, hpool, Option.map_eq_some_iff.mp hclosed⟩

end

end Host

end MockHost
