import MockHost.Proofs.Pool.Aging
import MockHost.Proofs.Pool.Bootstrap
import MockHost.Proofs.Pool.Shutdown

/-!
# What a Pool Owns

A pool has every one of its servers under the port that the server has, and no port is
given away as long as somebody has it. A server that leaves the pool is closed on the
way, and so is one that has been started for a pool which then turns out to have the
port already. So whatever has been done with a pool, each server that it has started or
that it has had is one that it still has, or is closed.

## Main definitions

* `Host.Orderly`: What a pool is like when nothing is being done with it.
* `Host.Held`, `Host.Settled`: A server that is in the pool, or closed, or has not been started.
* `Host.Tended`: What an operation may make of a pool.
* `Host.Operation.Frees`: An operation takes the server from a port.
* `Host.Operation.Starts`: A pool has started a server.

## Theorems

* `Host.add_tended`, `Host.remove_tended`, `Host.bootstrap_tended`, `Host.shutdown_tended`: One
  operation after another.
* `Host.operate_tended`: What one operation makes of a pool.
* `Host.operateAll_owns`: What any number of operations leave.
-/

namespace MockHost

open Act (Moves)

namespace Pool

variable {p : Pool} {port : Port} {id : ServerId}

theorem mem_of_get? (h : p.get? port = some id) : (port, id) ∈ p.servers := by
  rcases List.lookup_eq_some_iff.mp h with ⟨before, after, heq, -⟩
  rw [heq]
  exact List.mem_append_right _ List.mem_cons_self

/-- Where no port is there twice, a pool has on a port what is there. -/
theorem eq_of_get? (hports : (p.servers.map Prod.fst).Nodup) (h : p.get? port = some id)
    {e : Port × ServerId} (he : e ∈ p.servers) (hport : e.1 = port) : e = (port, id) :=
  List.inj_on_of_nodup_map hports he (mem_of_get? h) hport

theorem get?_of_mem (hports : (p.servers.map Prod.fst).Nodup) (h : (port, id) ∈ p.servers) :
    p.get? port = some id := by
  cases hget : p.get? port with
  | none =>
      have hfree : p.contains port = false := by rw [contains, hget, Option.isSome_none]
      exact (contains_eq_false.mp hfree _ h rfl).elim
  | some id' =>
      have heq := congrArg Prod.snd (eq_of_get? hports hget h rfl)
      exact congrArg some heq.symm

/-- Putting a server on the port that it has already changes nothing. -/
theorem insert_of_get? (hports : (p.servers.map Prod.fst).Nodup) (h : p.get? port = some id) :
    (p.insert port id).servers = p.servers := by
  have hcontains : p.contains port = true := by rw [contains, h, Option.isSome_some]
  rw [insert, hcontains]
  refine (List.map_congr_left fun e he => ?_).trans (List.map_id _)
  by_cases hport : e.1 = port
  · rw [if_pos hport, eq_of_get? hports h he hport]
    rfl
  · rw [if_neg hport]
    rfl

end Pool

namespace Host

/-- An entry of a pool is the port of the server, which has been started. -/
def Stored (h : Host) (e : Port × ServerId) : Prop :=
  ∃ s, h.server? e.2 = some s ∧ s.port = e.1 ∧ s.status ≠ .created

/-- Every server of the pool is there under its own port, and no port is there twice. -/
structure Orderly (h : Host) : Prop where
  stored : ∀ e ∈ h.pool.servers, h.Stored e
  ports : (h.pool.servers.map Prod.fst).Nodup
  atRest : h.network.AtRest

/-- The pool has a server, or the server is closed. -/
def Held (h : Host) (id : ServerId) : Prop := id ∈ h.pool.members ∨ h.Shut id

/-- A server has not been started, or the pool has it, or it is closed. -/
def Settled (h : Host) (id : ServerId) : Prop :=
  (∀ s, h.server? id = some s → s.status = .created) ∨ h.Held id

/-- What an operation may make of a pool from which it may take the servers on some ports. On all
    others they stay, and a port from which one is taken is given to nobody else. -/
structure Tended (freed : Port → Prop) (h h' : Host) : Prop where
  aged : Aged h h'
  orderly : h'.Orderly
  kept : ∀ {port id}, h.pool.get? port = some id →
    h'.pool.get? port = some id ∨ h'.pool.get? port = none ∧ freed port
  held : ∀ {id}, id ∈ h.pool.members → h'.Held id

section

variable {freed : Port → Prop} {h h' h₁ : Host} {id : ServerId} {s : Server}

theorem Stored.aged {e : Port × ServerId} (he : h.Stored e) (haged : Aged h h') : h'.Stored e := by
  rcases he with ⟨s, hs, hport, hbegun⟩
  rcases haged.servers hs with ⟨s', hs', hages⟩
  exact ⟨s', hs', (hages.port hbegun).trans hport, hages.begun hbegun⟩

/-- No server is there under two ports, since it has only one. -/
theorem Orderly.members_nodup (hh : h.Orderly) : h.pool.members.Nodup := by
  refine hh.ports.of_map.map_on fun e he e' he' hid => ?_
  rcases hh.stored e he with ⟨s, hs, hport, -⟩
  rcases hh.stored e' he' with ⟨s', hs', hport', -⟩
  rw [hid] at hs
  cases hs.symm.trans hs'
  exact Prod.ext (hport.symm.trans hport') hid

theorem Orderly.ready (hh : h.Orderly) (hs : h.server? id = some s) : h.Ready id :=
  ⟨s, hs, (hh.atRest.idle hs).free, (hh.atRest.idle hs).sealed⟩

theorem Orderly.ready_of_mem (hh : h.Orderly) (hid : id ∈ h.pool.members) : h.Ready id := by
  rcases List.mem_map.mp hid with ⟨e, he, rfl⟩
  rcases hh.stored e he with ⟨s, hs, -⟩
  exact hh.ready hs

/-- What comes to a pool comes to ports that nobody had, and what leaves it is closed. -/
theorem Orderly.tended (hh : h.Orderly) (haged : Aged h h')
    (hports : (h'.pool.servers.map Prod.fst).Nodup)
    (hnew : ∀ e ∈ h'.pool.servers, e ∈ h.pool.servers ∨ h.pool.contains e.1 = false ∧ h'.Stored e)
    (hold : ∀ e ∈ h.pool.servers, e ∈ h'.pool.servers ∨ freed e.1 ∧ h'.Shut e.2) :
    Tended freed h h' where
  aged := haged
  orderly :=
    { stored e he := by
        rcases hnew e he with he | ⟨-, hstored⟩
        · exact (hh.stored e he).aged haged
        · exact hstored
      ports := hports
      atRest := hh.atRest.ages haged }
  kept {port id} hget := by
    have hmem := Pool.mem_of_get? hget
    cases hget' : h'.pool.get? port with
    | none =>
        refine .inr ⟨rfl, ((hold _ hmem).resolve_left fun he => ?_).1⟩
        injection hget'.symm.trans (Pool.get?_of_mem hports he)
    | some id' =>
        -- The port was not free, so it is not a new server that is there.
        rcases hnew _ (Pool.mem_of_get? hget') with he | ⟨hfree, -⟩
        · have heq := congrArg Prod.snd (Pool.eq_of_get? hh.ports hget he rfl)
          exact .inl (congrArg some heq)
        · rw [Pool.contains, hget] at hfree
          injection hfree
  held {id} hid := by
    rcases List.mem_map.mp hid with ⟨e, he, rfl⟩
    exact (hold e he).imp (fun he => List.mem_map_of_mem he) And.right

/-- Servers come to a pool. -/
theorem Orderly.tended_of_append (hh : h.Orderly) (haged : Aged h h')
    {new : List (Port × ServerId)} (hpool : h'.pool.servers = h.pool.servers ++ new)
    (hports : (new.map Prod.fst).Nodup) (hfree : ∀ e ∈ new, h.pool.contains e.1 = false)
    (hstored : ∀ e ∈ new, h'.Stored e) : Tended freed h h' := by
  refine hh.tended haged ?_ (fun e he => ?_) fun e he => .inl ?_
  · rw [hpool, List.map_append, List.nodup_append]
    refine ⟨hh.ports, hports, fun p hp q hq => ?_⟩
    rcases List.mem_map.mp hp with ⟨e, he, rfl⟩
    rcases List.mem_map.mp hq with ⟨e', he', rfl⟩
    exact Pool.contains_eq_false.mp (hfree e' he') e he
  · rw [hpool, List.mem_append] at he
    exact he.imp_right fun he => ⟨hfree e he, hstored e he⟩
  · exact hpool ▸ List.mem_append_left _ he

/-- Servers leave a pool. -/
theorem Orderly.tended_of_sublist (hh : h.Orderly) (haged : Aged h h')
    (hpool : h'.pool.servers.Sublist h.pool.servers)
    (hgone : ∀ e ∈ h.pool.servers, e ∉ h'.pool.servers → freed e.1 ∧ h'.Shut e.2) :
    Tended freed h h' :=
  hh.tended haged (hh.ports.sublist (hpool.map _)) (fun _ he => .inl (hpool.subset he))
    fun e he => Decidable.or_iff_not_imp_left.mpr (hgone e he)

theorem Orderly.aged (hh : h.Orderly) (haged : Aged h h') (hpool : h'.pool = h.pool) :
    h'.Orderly where
  stored e he := (hh.stored e (hpool ▸ he)).aged haged
  ports := hpool ▸ hh.ports
  atRest := hh.atRest.ages haged

/-- Where the pool stays what it is, only the servers go on. -/
theorem Orderly.tended_of_eq (hh : h.Orderly) (haged : Aged h h')
    (hpool : h'.pool.servers = h.pool.servers) : Tended freed h h' :=
  hh.tended_of_sublist haged (hpool ▸ List.Sublist.refl _) fun _ he hgone =>
    (hgone (hpool ▸ he)).elim

/-- What is done before an operation does not matter if the pool stays what it is. -/
theorem Tended.after (haged : Aged h h₁) (hpool : h₁.pool = h.pool)
    (htended : Tended freed h₁ h') : Tended freed h h' where
  aged := aged_path.trans haged htended.aged
  orderly := htended.orderly
  kept hget := htended.kept (hpool ▸ hget)
  held hid := htended.held (hpool ▸ hid)

theorem Held.tended (hid : h.Held id) (htended : Tended freed h h') : h'.Held id := by
  rcases hid with hid | hshut
  · exact htended.held hid
  · exact .inr (hshut.ages htended.aged)

theorem Settled.of_created (hs : h.server? id = some s) (hcreated : s.status = .created) :
    h.Settled id := by
  refine .inl fun s' hs' => ?_
  cases hs.symm.trans hs'
  exact hcreated

/-! ### One server -/

/-- A server that has been started joins the pool, or is closed again. -/
theorem join_tended (k : Nat) (hh : h.Orderly) (hs : h.server? id = some s)
    (hbegun : s.status ≠ .created) :
    ∃ r h', (join (.ofPatience k) id).runFrom h = (r, h') ∧ Tended freed h h' ∧ h'.Held id ∧
      (r = .ok () → id ∈ h'.pool.members) := by
  have hport := portOf_eq hs
  by_cases hrival : (h.pool.get? (h.portOf id)).any (· != id) = true
  · -- Another server has the port, so this one is closed again.
    rcases closeServer_spec k (hh.ready hs) hh.atRest.systemErrors with
      ⟨h', hclose, haged, hpool, hshut⟩
    exact ⟨_, h', join_of_rival _ hrival hclose,
      hh.tended_of_eq haged (congrArg Pool.servers hpool), .inr hshut, fun h => by injection h⟩
  · rw [Bool.not_eq_true] at hrival
    rcases join_of_vacant (.ofPatience k) hrival with ⟨h', hrun, hpool, -, -⟩
    have haged : Aged h h' := (join_aged k id).reaches hrun
    rw [hport] at hpool hrival
    refine ⟨_, h', hrun, ?_⟩
    cases hget : h.pool.get? s.port with
    | none =>
        have hfree : h.pool.contains s.port = false := by
          rw [Pool.contains, hget, Option.isSome_none]
        have hservers : h'.pool.servers = h.pool.servers ++ [(s.port, id)] := by
          rw [hpool, Pool.insert_servers hfree]
        have hstored : h'.Stored (s.port, id) := Stored.aged ⟨s, hs, rfl, hbegun⟩ haged
        have hmem : id ∈ h'.pool.members := by
          rw [Pool.members, hservers, List.map_append]
          exact List.mem_append_right _ List.mem_cons_self
        refine ⟨hh.tended_of_append haged hservers (List.nodup_singleton _) (fun e he => ?_)
          fun e he => ?_, .inl hmem, fun _ => hmem⟩
        · rw [List.mem_singleton.mp he]
          exact hfree
        · rw [List.mem_singleton.mp he]
          exact hstored
    | some j =>
        -- The port is its own, so the server has been there before.
        rw [hget, Option.any_some, bne_eq_false_iff_eq] at hrival
        subst hrival
        have hservers : h'.pool.servers = h.pool.servers := by
          rw [hpool, Pool.insert_of_get? hh.ports hget]
        have hmem : j ∈ h'.pool.members := by
          rw [Pool.members, hservers]
          exact List.mem_map_of_mem (Pool.mem_of_get? hget)
        exact ⟨hh.tended_of_eq haged hservers, .inl hmem, fun _ => hmem⟩

/-- The pool has a server that has been added. Otherwise the server has been closed again, or was
    not started and is not now. -/
theorem add_tended (k : Nat) (hh : h.Orderly) (hs : h.server? id = some s) :
    ∃ r h', (add (.ofPatience k) id).runFrom h = (r, h') ∧ Tended freed h h' ∧
      (s.status = .created → h'.Settled id) ∧ (r = .ok () → id ∈ h'.pool.members) := by
  rcases add_cases k hs with
    ⟨f, h', hrun, haged, hpool, hfate⟩ | ⟨h₁, s₁, hrun, haged, hpool, hs₁, hopened, hsame⟩
  · refine ⟨_, h', hrun, hh.tended_of_eq haged (congrArg Pool.servers hpool), fun hcreated => ?_,
      fun h => by injection h⟩
    rcases hfate hcreated with ⟨s', hs', hcreated'⟩
    exact .of_created hs' hcreated'
  · have hbegun : s₁.status ≠ .created := by
      by_cases hcreated : s.status = .created
      · rw [hopened hcreated]
        exact fun h => by injection h
      · rw [(hsame hcreated).2]
        exact hcreated
    rcases join_tended k (hh.aged haged hpool) hs₁ hbegun with
      ⟨r, h', hjoin, htended, hheld, hmem⟩
    exact ⟨r, h', hrun.trans hjoin, htended.after haged hpool, fun _ => .inr hheld, hmem⟩

/-- The same for a server that there has not been before. -/
theorem addNew_tended (k : Nat) (hh : h.Orderly) (hs : s.Idle) (hcreated : s.status = .created) :
    ∃ r h', (addNew (.ofPatience k) s).runFrom h = (r, h') ∧ Tended freed h h' ∧
      h'.Settled h.network.servers.size ∧
      ∀ id, r = .ok id → h.network.servers.size ∈ h'.pool.members := by
  have haged : Aged h (h.withServer s) := Network.addServer_ages hs h.network
  rcases add_tended k (hh.aged haged rfl) (server?_withServer h s) with
    ⟨r, h', hrun, htended, hfate, hmem⟩
  rw [addNew_eq, Act.runFrom_bind, hrun]
  cases r with
  | error f =>
      exact ⟨_, h', rfl, htended.after haged rfl, hfate hcreated, fun _ h => by injection h⟩
  | ok _ => exact ⟨_, h', rfl, htended.after haged rfl, hfate hcreated, fun _ _ => hmem rfl⟩

/-- A server that is removed is closed. -/
theorem remove_tended (k : Nat) (hh : h.Orderly) (port : Port) :
    ∃ r h', (remove (.ofPatience k) port).runFrom h = (r, h') ∧ Tended (· = port) h h' := by
  cases hget : h.pool.get? port with
  | none =>
      refine ⟨.ok none, h, ?_, hh.tended_of_eq (aged_path.refl h) rfl⟩
      rw [remove, Act.runFrom_bind_ok (Act.runFrom_get h), hget]
      rfl
  | some id =>
      have hmem : id ∈ h.pool.members := List.mem_map_of_mem (Pool.mem_of_get? hget)
      have hready : ({ h with pool := h.pool.erase port } : Host).Ready id := hh.ready_of_mem hmem
      rcases closeServer_spec k hready hh.atRest.systemErrors with ⟨h', hclose, haged, hpool, hshut⟩
      have hrun : (remove (.ofPatience k) port).runFrom h = (.ok (some id), h') := by
        rw [remove, Act.runFrom_bind_ok (Act.runFrom_get h), hget]
        dsimp only
        rw [modifyPool, Act.runFrom_bind_ok (Act.runFrom_modify _ h), Act.runFrom_bind_ok hclose]
        rfl
      have hsub : h'.pool.servers.Sublist h.pool.servers := by
        rw [hpool]
        exact List.filter_sublist
      refine ⟨_, h', hrun, hh.tended_of_sublist haged hsub fun e he hgone => ?_⟩
      -- Nobody else is there under this port.
      have hport : e.1 = port := by
        by_contra hport
        exact hgone (hpool ▸ List.mem_filter.mpr ⟨he, bne_iff_ne.mpr hport⟩)
      refine ⟨hport, ?_⟩
      rw [Pool.eq_of_get? hh.ports hget he hport]
      exact hshut

/-! ### Several servers -/

/-- All servers of a pool that is shut down are closed. -/
theorem shutdown_tended (k : Nat) (hh : h.Orderly) :
    ∃ r h', (shutdown (.ofPatience k)).runFrom h = (r, h') ∧ Tended (fun _ => True) h h' := by
  rcases shutdown_spec k ⟨fun _ hid => hh.ready_of_mem hid, hh.atRest.systemErrors⟩ with
    ⟨h', hrun, hpool, hshut⟩
  refine ⟨_, h', hrun, hh.tended_of_sublist ((shutdown_aged k).reaches hrun) ?_ fun e he _ => ?_⟩
  · rw [hpool]
    exact List.nil_sublist _
  · exact ⟨True.intro, hshut e.2 (List.mem_map_of_mem he)⟩

/-- A pool that is what it was is orderly, and the servers that have been started in the meantime
    are closed. -/
theorem Restored.tended {count : Nat} (hrestored : Restored h count h') (hh : h.Orderly)
    (haged : Aged h h') :
    Tended freed h h' ∧ ∀ id, h.network.servers.size ≤ id → h'.Settled id := by
  refine ⟨hh.tended_of_eq haged hrestored.pool, fun id hid => ?_⟩
  rcases Nat.exists_eq_add_of_le hid with ⟨i, rfl⟩
  by_cases hi : i < count
  · exact .inr (.inr (hrestored.closed i hi))
  · exact .inl fun s' hs' => (hrestored.others _ s' (by omega) hs').1

/-- A pool that has a server for each of some ports besides what it had is orderly. -/
theorem Grown.tended {ports : List Port} (hgrown : Grown h ports h') (hnodup : ports.Nodup)
    (hfree : ∀ p ∈ ports, h.pool.contains p = false) (hh : h.Orderly) (haged : Aged h h') :
    Tended freed h h' := by
  have hfst : (ports.zip (List.range' h.network.servers.size ports.length)).map Prod.fst = ports :=
    List.map_fst_zip (Nat.le_of_eq List.length_range'.symm)
  refine hh.tended_of_append haged hgrown.pool (hfst.symm ▸ hnodup) (fun e he => ?_) fun e he => ?_
  · exact hfree e.1 (hfst ▸ List.mem_map_of_mem he)
  · rcases List.mem_iff_getElem?.mp he with ⟨i, hi⟩
    rcases List.getElem?_zip_eq_some.mp hi with ⟨hp, hid⟩
    rcases hgrown.server i e.1 hp with ⟨-, r, s, -, hs, hstatus, -, hport, -⟩
    rw [List.getElem?_range' (List.getElem?_eq_some_iff.mp hp).1, Nat.one_mul] at hid
    refine ⟨s, Option.some_inj.mp hid ▸ hs, hport, fun hcreated => ?_⟩
    injection hstatus.symm.trans hcreated

/-- There are no other new servers than those of the ports. -/
theorem Grown.mem_members {ports : List Port} (hgrown : Grown h ports h')
    (hsize : h'.network.servers.size = h.network.servers.size + ports.length)
    (hid : h.network.servers.size ≤ id) (hs : h'.server? id = some s) : id ∈ h'.pool.members := by
  rcases Nat.exists_eq_add_of_le hid with ⟨i, rfl⟩
  have hlt : i < ports.length := by
    have hlt := (Array.getElem?_eq_some_iff.mp hs).1
    omega
  exact List.mem_map_of_mem
    (Pool.mem_of_get? (hgrown.server i _ (List.getElem?_eq_getElem hlt)).1)

/-- The pool has all servers of a configuration that have been added. Otherwise those that have been
    started are closed. -/
theorem bootstrap_tended (k : Nat) (hh : h.Orderly) (hsound : h.configuration.Sound)
    (settings : Settings) (host : Option Text) (behavior : Option Behavior)
    (hooks : Option (List Hook)) :
    ∃ r h', (bootstrap (.ofPatience k) (made settings host behavior hooks)).runFrom h = (r, h') ∧
      Tended freed h h' ∧ ∀ id, h.network.servers.size ≤ id → h'.Settled id ∧
        ∀ ids s, r = .ok ids → h'.server? id = some s → id ∈ h'.pool.members := by
  have hmake : Makes (made settings host behavior hooks) := makes_made settings host behavior hooks
  have haged : Moves Aged (bootstrap (.ofPatience k) (made settings host behavior hooks)) :=
    bootstrap_aged k fun _ _ => Network.idle_create ..
  have hfailed : ∀ {f count h'}, Aged h h' → Restored h count h' → Tended freed h h' ∧
      ∀ id, h.network.servers.size ≤ id → h'.Settled id ∧ ∀ ids s,
        (.error f : Except Failure (List ServerId)) = .ok ids → h'.server? id = some s →
          id ∈ h'.pool.members := by
    intro f count h' haged hrestored
    rcases hrestored.tended hh haged with ⟨htended, hsettled⟩
    exact ⟨htended, fun id hid => ⟨hsettled id hid, fun _ _ h => by injection h⟩⟩
  rcases bootstrap_spec k hmake hsound hh.atRest.systemErrors with
    ⟨f, h', -, hrun, hR⟩ | ⟨d, -, hvalid, ⟨h', hall, hrun, hL⟩ | ⟨before, f, h', -, hrun, hR⟩⟩
  · exact ⟨_, h', hrun, hfailed (haged.reaches hrun) hR.restored⟩
  · have hfree : ∀ p ∈ d.ports, h.pool.contains p = false := fun p hp =>
      contains_of_accepted hmake (hvalid.ne_zero hp) (hall p hp)
    have hgrown : Grown h d.ports h' := hL.grown d.ports_nodup hfree fun _ _ => rfl
    refine ⟨_, h', hrun, hgrown.tended d.ports_nodup hfree hh (haged.reaches hrun), fun id hid =>
      ⟨?_, fun _ s _ hs => hgrown.mem_members hL.size hid hs⟩⟩
    cases hs : h'.server? id with
    | none => exact .inl fun s hs' => by injection hs.symm.trans hs'
    | some s => exact .inr (.inl (hgrown.mem_members hL.size hid hs))
  · exact ⟨_, h', hrun, hfailed (haged.reaches hrun) hR.restored⟩

end

/-! ### Any number of operations -/

namespace Operation

/-- The configuration that is given has been read as configurations are, and a socket that is to
    refuse to be shut down is to do so with an error of the system. -/
structure Proper (o : Operation) : Prop where
  sound : ∀ c host behavior hooks, o = .bootstrap c host behavior hooks → c.Sound
  system : ∀ port f, o = .network (.failShutdown port f) → ∃ e, f = .system e

/-- An operation has to do with a server if it is to add it, or makes it: new servers have the next
    numbers. -/
def Concerns (h : Host) (id : ServerId) : Operation → Prop
  | .add id' => id = id'
  | .addPort _ => id = h.network.servers.size
  | .bootstrap .. => h.network.servers.size ≤ id
  | .remove _ | .shutdown | .network _ => False

/-- The ports from which an operation takes the servers. -/
def Frees : Operation → Port → Prop
  | .remove port' => fun port => port = port'
  | .shutdown => fun _ => True
  | .addPort _ | .add _ | .bootstrap .. | .network _ => fun _ => False

end Operation

/-- The host after operations. -/
def after (k : Nat) (h : Host) (ops : List Operation) : Host :=
  ((operateAll (.ofPatience k) ops).runFrom h).2

/-- The pool starts a server: the operation has to do with it, and it has not been started before
    the operation, but has been when the operation has ended. -/
def Operation.Starts (k : Nat) (o : Operation) (h : Host) (id : ServerId) : Prop :=
  o.Concerns h id ∧ (∀ s, h.server? id = some s → s.status = .created) ∧
    ∃ s, (h.after k [o]).server? id = some s ∧ s.status ≠ .created

section

variable {h h' : Host} {id : ServerId}

/-- Whether an act succeeds and where it leads to does not depend on whether its result is used. -/
theorem runFrom_discard {α : Type} {a : Act Host α} {r : Except Failure α}
    (hrun : a.runFrom h = (r, h')) :
    ∃ r' : Except Failure Unit, (do let _ ← a : Act Host Unit).runFrom h = (r', h') ∧
      (r' = .ok () → ∃ x, r = .ok x) := by
  rw [Act.runFrom_bind, hrun]
  cases r with
  | error f => exact ⟨_, rfl, fun h => by injection h⟩
  | ok x => exact ⟨_, rfl, fun _ => ⟨x, rfl⟩⟩

/-- What one operation makes of a pool. If it succeeds the pool has the servers that the operation
    has to do with. Otherwise those that it has started are closed. -/
theorem operate_tended (k : Nat) (hh : h.Orderly) {o : Operation} (ho : o.Proper) :
    ∃ r h', (operate (.ofPatience k) o).runFrom h = (r, h') ∧ Tended o.Frees h h' ∧
      ∀ id, o.Concerns h id →
        ((∀ s, h.server? id = some s → s.status = .created) → h'.Settled id) ∧
          ∀ s, r = .ok () → h'.server? id = some s → id ∈ h'.pool.members := by
  cases o with
  | addPort port =>
      rcases addNew_tended k hh (Network.idle_create h.network.settings (some port) none none none
        none none none) rfl with ⟨r, h', hadd, htended, hfate, hmem⟩
      rcases runFrom_discard hadd with ⟨r', hrun, hok⟩
      refine ⟨r', h', hrun, htended, fun id hid => ?_⟩
      subst hid
      refine ⟨fun _ => hfate, fun _ hr _ => ?_⟩
      rcases hok hr with ⟨id, hid⟩
      exact hmem id hid
  | add id =>
      cases hs : h.server? id with
      | none =>
          have hrun : (operate (.ofPatience k) (.add id)).runFrom h = (.ok (), h) := by
            rw [operate, Act.runFrom_bind_ok (Act.runFrom_get h), hs]
            rfl
          refine ⟨_, h, hrun, hh.tended_of_eq (aged_path.refl h) rfl, fun j hj => ?_⟩
          subst hj
          exact ⟨fun hcreated => .inl hcreated, fun s _ hs' => by injection hs.symm.trans hs'⟩
      | some s =>
          rcases add_tended k hh hs with ⟨r, h', hadd, htended, hfate, hmem⟩
          have hrun : (operate (.ofPatience k) (.add id)).runFrom h = (r, h') := by
            rw [operate, Act.runFrom_bind_ok (Act.runFrom_get h), hs]
            exact hadd
          refine ⟨r, h', hrun, htended, fun j hj => ?_⟩
          subst hj
          exact ⟨fun hcreated => hfate (hcreated s hs), fun _ hr _ => hmem hr⟩
  | remove port =>
      rcases remove_tended k hh port with ⟨r, h', hremove, htended⟩
      rcases runFrom_discard hremove with ⟨r', hrun, -⟩
      exact ⟨r', h', hrun, htended, fun _ h => h.elim⟩
  | bootstrap configuration host behavior hooks =>
      have haged : Aged h { h with configuration } := aged_path.refl h
      rcases bootstrap_tended k (hh.aged haged rfl) (ho.sound configuration host behavior hooks rfl)
        h.network.settings host behavior hooks with ⟨r, h', hbootstrap, htended, hfate⟩
      rcases runFrom_discard hbootstrap with ⟨r', hrun, hok⟩
      refine ⟨r', h', hrun, htended.after haged rfl, fun id hid => ?_⟩
      refine ⟨fun _ => (hfate id hid).1, fun s hr hs => ?_⟩
      rcases hok hr with ⟨ids, hids⟩
      exact (hfate id hid).2 ids s hids hs
  | shutdown =>
      rcases shutdown_tended k hh with ⟨r, h', hrun, htended⟩
      exact ⟨r, h', hrun, htended, fun _ h => h.elim⟩
  | network o =>
      have haged : Aged h ((operate (.ofPatience k) (.network o)).runFrom h).2 :=
        operate_aged k ho.system h
      exact ⟨_, _, rfl, hh.tended_of_eq haged rfl, fun _ h => h.elim⟩

theorem after_cons (k : Nat) (h : Host) (o : Operation) (ops : List Operation) :
    h.after k (o :: ops) = Host.after k ((operate (.ofPatience k) o).runFrom h).2 ops := by
  rw [after, operateAll, Act.runFrom_bind_ok (Act.runFrom_attempt _ h)]
  rfl

theorem after_append (k : Nat) (h : Host) (ops ops' : List Operation) :
    h.after k (ops ++ ops') = (h.after k ops).after k ops' := by
  induction ops generalizing h with
  | nil => rfl
  | cons o ops ih => rw [List.cons_append, after_cons, after_cons, ih]

/-- Any number of operations leave a pool orderly, and a server that it has, or that is closed, is
    one that it still has, or closed. -/
theorem after_orderly (k : Nat) (hh : h.Orderly) {ops : List Operation}
    (hops : ∀ o ∈ ops, o.Proper) :
    (h.after k ops).Orderly ∧ ∀ id, h.Held id → (h.after k ops).Held id := by
  induction ops generalizing h with
  | nil => exact ⟨hh, fun _ hid => hid⟩
  | cons o ops ih =>
      rcases operate_tended k hh (hops o List.mem_cons_self) with ⟨r, h₁, hrun, htended, -⟩
      rcases ih htended.orderly fun o' ho' => hops o' (List.mem_cons_of_mem o ho') with
        ⟨horderly, hheld⟩
      rw [after_cons, hrun]
      exact ⟨horderly, fun id hid => hheld id (hid.tended htended)⟩

/-- Whatever has been done with a pool that was empty in the beginning, and with the network: every
    server of the pool is there under the port that it has, and none is there twice.

    In between no operation puts another server on a port that somebody has. The server stays there
    unless it is taken away. If an operation succeeds in adding servers they are in the pool. And
    every server that the pool has had at some time, or has started, is closed if the pool does not
    have it any more. -/
theorem operateAll_owns (k : Nat) (hempty : h.pool.servers = []) (hrest : h.network.AtRest)
    {ops : List Operation} (hops : ∀ o ∈ ops, o.Proper) :
    (∀ port id, (port, id) ∈ (h.after k ops).pool.servers →
      ∃ s, (h.after k ops).server? id = some s ∧ s.port = port) ∧
    (h.after k ops).pool.members.Nodup ∧
    ∀ done o rest, ops = done ++ o :: rest →
      (∀ port id, (h.after k done).pool.get? port = some id →
        (h.after k (done ++ [o])).pool.get? port = some id ∨
          (h.after k (done ++ [o])).pool.get? port = none ∧ o.Frees port) ∧
      (((operate (.ofPatience k) o).runFrom (h.after k done)).1 = .ok () →
        ∀ id s, o.Concerns (h.after k done) id → (h.after k (done ++ [o])).server? id = some s →
          id ∈ (h.after k (done ++ [o])).pool.members) ∧
      ∀ id, id ∈ (h.after k done).pool.members ∨ o.Starts k (h.after k done) id →
        id ∉ (h.after k ops).pool.members → (h.after k ops).Shut id := by
  have hh : h.Orderly :=
    { stored e he := (List.not_mem_nil (hempty ▸ he)).elim
      ports := hempty ▸ List.nodup_nil
      atRest := hrest }
  have hlast := (after_orderly k hh hops).1
  refine ⟨fun port id he => ?_, hlast.members_nodup, ?_⟩
  · rcases hlast.stored (port, id) he with ⟨s, hs, hport, -⟩
    exact ⟨s, hs, hport⟩
  rintro done o rest rfl
  -- Up to the operation, the operation itself, and what comes after it.
  have hdone := (after_orderly k hh fun o' ho' => hops o' (List.mem_append_left _ ho')).1
  have ho : o.Proper := hops o (List.mem_append_right _ List.mem_cons_self)
  rcases operate_tended k hdone ho with ⟨r, h₁, hrun, htended, hfate⟩
  have hone : (h.after k done).after k [o] = h₁ := by
    rw [after_cons, hrun]
    rfl
  have hheld := (after_orderly k htended.orderly
    fun o' ho' => hops o' (List.mem_append_right _ (List.mem_cons_of_mem o ho'))).2
  rw [after_append, after_append, hone, after_cons, hrun]
  refine ⟨fun port id => htended.kept, fun hr id s hconcerns => (hfate id hconcerns).2 s hr,
    fun id hid hgone => (hheld id ?_).resolve_left hgone⟩
  rcases hid with hid | ⟨hconcerns, hcreated, s, hs, hbegun⟩
  · exact htended.held hid
  · rw [hone] at hs
    exact ((hfate id hconcerns).1 hcreated).resolve_left fun hnot => hbegun (hnot s hs)

/-- A server is closed which the pool has on a port, and another one, which may have any port, is
    given this one. The pool starts it, finds the port taken, and closes it. -/
theorem operateAll_owns_rival :
    let settings : Settings := .usual ""
    let h : Host :=
      { network := { settings }, configuration := Configuration.create settings ⟨[], [], []⟩ none none }
    let ops : List Operation :=
      [.addPort 40001, .network (.close 0),
        .network (.create (some 0) none none none none none none), .add 1]
    h.pool.servers = [] ∧ h.network.AtRest ∧ (∀ o ∈ ops, o.Proper) ∧
      (h.after 1 ops).pool.servers = [(40001, 0)] ∧ (h.after 1 ops).Shut 1 := by
  intro settings h ops
  have hrest : h.network.AtRest :=
    ⟨fun {id s} hs => (by injection hs), fun x hx => (List.not_mem_nil hx).elim⟩
  have hops : ∀ o ∈ ops, o.Proper := by
    intro o ho
    refine ⟨fun c host behavior hooks h => ?_, fun port f h => ?_⟩
    · subst h
      simp [ops] at ho
    · subst h
      simp [ops] at ho
  have hpool : (h.after 1 ops).pool.servers = [(40001, 0)] := by decide +kernel
  refine ⟨rfl, hrest, hops, hpool, ?_⟩
  have hbefore : ((h.after 1 (ops.take 3)).server? 1).map Server.status = some .created := by
    decide +kernel
  have hafter : (((h.after 1 (ops.take 3)).after 1 [.add 1]).server? 1).map Server.status =
      some .closed := by decide +kernel
  rcases Option.map_eq_some_iff.mp hafter with ⟨s, hs, hclosed⟩
  have hstarts : Operation.Starts 1 (.add 1) (h.after 1 (ops.take 3)) 1 := by
    refine ⟨rfl, fun t ht => ?_, s, hs, fun hcreated => by injection hclosed.symm.trans hcreated⟩
    rw [ht] at hbefore
    exact Option.some_inj.mp hbefore
  have hgone : 1 ∉ (h.after 1 ops).pool.members := by
    rw [Pool.members, hpool]
    decide
  rcases operateAll_owns 1 rfl hrest hops with ⟨-, -, howns⟩
  exact (howns (ops.take 3) (.add 1) [] rfl).2.2 1 (.inr hstarts) hgone

end

end Host

end MockHost
