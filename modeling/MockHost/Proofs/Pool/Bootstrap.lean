import MockHost.Proofs.Pool.Launching

/-!
# All Servers of a Configuration or None

A pool is given a server for every port of a configuration at once. Either no port is
refused, and each has a server in the end, or the first that is refused ends it all, and
the servers before it are taken out of the pool again and closed.

The way back has an invariant of its own, which counts the servers that have been closed
again. A server is taken out of the pool by its port alone. That this never hits one which
was there before is because its port would have been refused.

## Main definitions

* `Host.Receding`: What has become of a host on the way back.
* `Host.Grown`, `Host.Restored`: What there is in the end.

## Theorems

* `Host.Receding.step`, `Host.removeAll_spec`: One server and all of them.
* `Host.bootstrap_spec`: The way there, and the way back if there is one.
* `Host.bootstrap_allOrNothing`: A server for every port, or the pool as it was.
-/

namespace MockHost

namespace Host

section

variable {make : Port → Registry → Server} {h h₁ : Host} {d : Document} {done : List Port}
  {p : Port}

/-! ### The way back -/

/-- A server of a port that can be taken out of the pool and closed. -/
structure Removable (p : Port) (s : Server) : Prop where
  port : s.port = p
  lonely : s.Lonely
  sealed : s.Sealed
  free : s.closeUnderWay = false

/-- Of the servers that have been added, the first `count` ones have been taken out of the pool
    and closed. The pool still has the others, which are those of the ports `left`. -/
structure Receding (h : Host) (count : Nat) (left : List Port) (h' : Host) : Prop where
  old : ∀ j, j < h.network.servers.size → h'.network.servers[j]? = h.network.servers[j]?
  gone : ∀ i, i < count → ∃ s, h'.network.servers[h.network.servers.size + i]? = some s ∧
    s.status = .closed ∧ s.listener.isSome = false
  still : ∀ (i : Nat) p, left[i]? = some p →
    ∃ s, h'.network.servers[h.network.servers.size + count + i]? = some s ∧ Removable p s
  rest : ∀ j s, h.network.servers.size + count + left.length ≤ j →
    h'.network.servers[j]? = some s → s.status = .created ∧ s.listener = none
  pool : h'.pool.servers =
    h.pool.servers ++ left.zip (List.range' (h.network.servers.size + count) left.length)
  links : h'.network.links = h.network.links
  connections : h'.network.connections = h.network.connections
  systemErrors : h'.network.SystemErrorsAtShutdown

theorem Standing.receding (hmake : Makes make) (hS : Standing make h done h₁) :
    Receding h 0 done h₁ where
  old := hS.old
  gone i hi := (Nat.not_lt_zero i hi).elim
  still i p hp := by
    rcases hS.new i p hp with ⟨r, a, -, hs⟩
    refine ⟨_, hs, rfl, Server.listening_lonely (hmake.new p r) p a, ?_, (hmake.new p r).free⟩
    intro hclosed
    injection hclosed
  rest := hS.rest
  pool := hS.pool
  links := hS.links
  connections := hS.connections
  systemErrors := hS.systemErrors

/-- The next server is taken out of the pool and closed. -/
theorem Receding.step (k : Nat) {count : Nat} {left : List Port}
    (hR : Receding h count (p :: left) h₁) (hp : p ∉ left) (hfree : h.pool.contains p = false) :
    ∃ h₂, (remove (.ofPatience k) (h₁.portOf (h.network.servers.size + count))).runFrom h₁ =
      (.ok (some (h.network.servers.size + count)), h₂) ∧ Receding h (count + 1) left h₂ := by
  rcases hR.still 0 p rfl with ⟨s, hs, hremovable⟩
  rw [Nat.add_zero] at hs
  have hport : h₁.portOf (h.network.servers.size + count) = p :=
    (portOf_eq hs).trans hremovable.port
  have hpool : h₁.pool.servers = h.pool.servers ++ (p, h.network.servers.size + count) ::
      left.zip (List.range' (h.network.servers.size + (count + 1)) left.length) := by
    rw [hR.pool, List.length_cons, List.range'_succ, List.zip_cons_cons, Nat.add_assoc]
  -- No server from before has the port, so it is looked up among those that are still to go.
  have hget : h₁.pool.get? p = some (h.network.servers.size + count) := by
    rw [Pool.contains, Option.isSome_eq_false_iff, Option.isNone_iff_eq_none, Pool.get?] at hfree
    rw [Pool.get?, hpool, List.lookup_append, hfree, Option.none_or, List.lookup_cons_self]
  rcases remove_spec k hget hs hremovable.lonely hremovable.sealed hremovable.free
      hR.systemErrors with
    ⟨h₂, s', hrun, hpool₂, -, hapart, herrors, hs', hstatus, hdeaf⟩
  refine ⟨h₂, hport.symm ▸ hrun, ?_⟩
  refine { old := ?_, gone := ?_, still := ?_, rest := ?_, pool := ?_, links := ?_,
           connections := ?_, systemErrors := herrors }
  · intro j hj
    rw [hapart.others j (Nat.ne_of_lt (by omega)), hR.old j hj]
  · intro i hi
    by_cases hlast : i = count
    · rw [hlast]
      exact ⟨s', hs', hstatus, hdeaf⟩
    · rw [hapart.others _ (Nat.ne_of_lt (by omega))]
      exact hR.gone i (by omega)
  · intro i q hq
    rw [hapart.others _ (Nat.ne_of_gt (by omega))]
    have hstill := hR.still (i + 1) q hq
    rwa [Nat.add_comm i, ← Nat.add_assoc] at hstill
  · intro j t hj ht
    rw [hapart.others j (Nat.ne_of_gt (by omega))] at ht
    refine hR.rest j t ?_ ht
    rw [List.length_cons]
    omega
  · -- Neither those from before nor those still to go have the port that is erased.
    have hpast : ∀ e ∈ h.pool.servers, (e.1 != p) = true :=
      fun e he => bne_iff_ne.mpr (Pool.contains_eq_false.mp hfree e he)
    have hlater : ∀ e ∈ left.zip (List.range' (h.network.servers.size + (count + 1)) left.length),
        (e.1 != p) = true := by
      intro e he
      rw [bne_iff_ne]
      rintro rfl
      exact hp (List.of_mem_zip he).1
    rw [hpool₂, Pool.erase]
    dsimp only
    rw [hpool, List.filter_append, List.filter_eq_self.mpr hpast, List.filter_cons,
      bne_self_eq_false, if_neg Bool.false_ne_true, List.filter_eq_self.mpr hlater]
  · exact hapart.links.trans hR.links
  · exact hapart.connections.trans hR.connections

theorem removeAll_spec (k : Nat) {count : Nat} {left : List Port} (hR : Receding h count left h₁)
    (hnodup : left.Nodup) (hfree : ∀ p ∈ left, h.pool.contains p = false) :
    ∃ h₂, (removeAll (.ofPatience k)
        (List.range' (h.network.servers.size + count) left.length)).runFrom h₁ = (.ok (), h₂) ∧
      Receding h (count + left.length) [] h₂ := by
  -- On the ports that are left, of which the first is always the next to go.
  induction left generalizing count h₁ with
  | nil => exact ⟨h₁, rfl, hR⟩
  | cons p left ih =>
      rcases hR.step k (List.nodup_cons.mp hnodup).1 (hfree p List.mem_cons_self) with
        ⟨h₂, hremove, hR₂⟩
      rcases ih hR₂ (List.nodup_cons.mp hnodup).2
        (fun q hq => hfree q (List.mem_cons_of_mem p hq)) with ⟨h₃, hrun, hR₃⟩
      refine ⟨h₃, ?_, ?_⟩
      · rw [List.length_cons, List.range'_succ, removeAll,
          Act.runFrom_bind_ok (Act.runFrom_get h₁), Act.runFrom_bind_ok hremove]
        exact hrun
      · rw [List.length_cons, Nat.add_comm left.length, ← Nat.add_assoc]
        exact hR₃

/-! ### The whole of it -/

theorem note_spec (o : Occurrence) (h : Host) : ∃ h', (note o).runFrom h = (.ok (), h') ∧
    Quiet h h' ∧ h'.configuration = h.configuration :=
  ⟨_, rfl, ⟨⟨_, rfl⟩, rfl⟩, rfl⟩

section

variable {sch : Scheduler} {h₂ : Host} {ports : List Port} {ids : List ServerId} {f : Failure}

theorem bootstrap_of_ok (hports : (onConfiguration Configuration.ports).runFrom h = (.ok ports, h₁))
    (hadd : (addPorts sch make [] ports).runFrom h₁ = (.ok (ids, .ok ()), h₂)) :
    ∃ h₃, (bootstrap sch make).runFrom h = (.ok ids, h₃) ∧ Quiet h₂ h₃ ∧
      h₃.configuration = h₂.configuration := by
  have hattempt : (Act.attempt (onConfiguration Configuration.ports)).runFrom h =
      (.ok (.ok ports), h₁) := by
    rw [Act.runFrom_attempt, hports]
  rcases note_spec (.logged .info "pool_bootstrapped" [portsField "ports" h₂ ids]) h₂ with
    ⟨h₃, hnote, hquiet, hconfiguration⟩
  refine ⟨h₃, ?_, hquiet, hconfiguration⟩
  rw [bootstrap, Act.runFrom_bind_ok hattempt]
  dsimp only
  rw [Act.runFrom_bind_ok hadd]
  dsimp only
  rw [Act.runFrom_bind_ok (Act.runFrom_get h₂), Act.runFrom_bind_ok hnote]
  rfl

theorem bootstrap_of_error
    (hports : (onConfiguration Configuration.ports).runFrom h = (.ok ports, h₁))
    (hadd : (addPorts sch make [] ports).runFrom h₁ = (.ok (ids, .error f), h₂)) :
    ∃ h₃, Quiet h₂ h₃ ∧ ∀ h₄, (removeAll sch ids).runFrom h₃ = (.ok (), h₄) →
      (bootstrap sch make).runFrom h = (.error f, h₄) := by
  have hattempt : (Act.attempt (onConfiguration Configuration.ports)).runFrom h =
      (.ok (.ok ports), h₁) := by
    rw [Act.runFrom_attempt, hports]
  rcases note_spec (.logged .error "pool_bootstrap_failed" [portsField "started" h₂ ids]) h₂ with
    ⟨h₃, hnote, hquiet, -⟩
  refine ⟨h₃, hquiet, fun h₄ hremove => ?_⟩
  rw [bootstrap, Act.runFrom_bind_ok hattempt]
  dsimp only
  rw [Act.runFrom_bind_ok hadd]
  dsimp only
  rw [Act.runFrom_bind_ok (Act.runFrom_get h₂), Act.runFrom_bind_ok hnote,
    Act.runFrom_bind_ok hremove]
  rfl

theorem bootstrap_of_ports_error (sch : Scheduler) (make : Port → Registry → Server)
    (hports : (onConfiguration Configuration.ports).runFrom h = (.error f, h₁)) :
    ∃ h₂, Quiet h₁ h₂ ∧ (bootstrap sch make).runFrom h = (.error f, h₂) := by
  have hattempt : (Act.attempt (onConfiguration Configuration.ports)).runFrom h =
      (.ok (.error f), h₁) := by
    rw [Act.runFrom_attempt, hports]
  rcases note_spec (.logged .error "pool_bootstrap_failed" [portsField "started" h₁ []]) h₁ with
    ⟨h₂, hnote, hquiet, -⟩
  refine ⟨h₂, hquiet, ?_⟩
  rw [bootstrap, Act.runFrom_bind_ok hattempt]
  dsimp only
  rw [Act.runFrom_bind_ok (Act.runFrom_pure _ h₁)]
  dsimp only
  rw [Act.runFrom_bind_ok (Act.runFrom_get h₁), Act.runFrom_bind_ok hnote]
  rfl

end

/-- A port that is not refused is not taken. -/
theorem contains_of_accepted (hmake : Makes make) (hzero : p ≠ 0)
    (h' : h.refusal? make p = none) : h.pool.contains p = false := by
  rw [refusal?] at h'
  split at h'
  · injection h'
  · rename_i r _
    rw [obstacle?, hmake.port] at h'
    split at h'
    · injection h'
    · rename_i htaken
      rw [Bool.and_eq_true, decide_eq_true_eq, not_and, Bool.not_eq_true] at htaken
      exact htaken hzero

/-- The ports of the configuration are given servers, or the pool is what it was. -/
theorem bootstrap_spec (k : Nat) (hmake : Makes make) (hsound : h.configuration.Sound)
    (herrors : h.network.SystemErrorsAtShutdown) :
    (∃ f h', h.documentOf = .error f ∧
      (bootstrap (.ofPatience k) make).runFrom h = (.error f, h') ∧ Receding h 0 [] h') ∨
    ∃ d, h.documentOf = .ok d ∧ d.Valid ∧
      ((∃ h', (∀ p ∈ d.ports, h.refusal? make p = none) ∧
          (bootstrap (.ofPatience k) make).runFrom h =
            (.ok (List.range' h.network.servers.size d.ports.length), h') ∧
          Launched make h d d.ports h') ∨
        ∃ before f h', FirstRefused make h d.ports before f ∧
          (bootstrap (.ofPatience k) make).runFrom h = (.error f, h') ∧
          Receding h before.length [] h') := by
  rcases onConfiguration_spec Configuration.ports h with ⟨h₁, hports, hconfiguration, hquiet⟩
  rcases hload : Configuration.load.runFrom { h.configuration with trace := #[] } with ⟨f | d, c⟩
  · have hdocument : h.documentOf = .error f := congrArg Prod.fst hload
    have hfail : Configuration.ports.runFrom { h.configuration with trace := #[] } =
        (.error f, c) := Act.runFrom_bind_error hload _
    rw [hfail] at hports
    rcases bootstrap_of_ports_error (.ofPatience k) make hports with ⟨h₂, hquiet₂, hrun⟩
    -- There is no document, but nothing has been added either.
    exact .inl ⟨f, h₂, hdocument, hrun,
      (((Standing.refl herrors).quiet hquiet).quiet hquiet₂).receding hmake⟩
  · have hsound₀ : ({ h.configuration with trace := #[] } : Configuration).Sound := hsound
    rcases Configuration.load_spec hsound₀ hload with ⟨hdocument, hvalid⟩
    have hok := Configuration.ports_of_load hload
    rw [hok] at hports hconfiguration
    have hL₁ : Launched make h d [] h₁ := .start hquiet (hconfiguration ▸ hdocument) herrors
    have hnodup : d.ports.Nodup := d.ports_nodup
    have hzero : ∀ p ∈ d.ports, p ≠ 0 := fun p hp => hvalid.ne_zero hp
    refine .inr ⟨d, congrArg Prod.fst hload, hvalid, ?_⟩
    rcases addPorts_spec k hmake (registers_of_load hload) d.ports hL₁ hnodup hzero with
      ⟨h₂, hall, hadd, hL₂⟩ | ⟨before, f, h₂, hfirst, hadd, hS₂⟩
    · rcases bootstrap_of_ok hports hadd with ⟨h₃, hrun, hquiet₃, hconfiguration₃⟩
      exact .inl ⟨h₃, hall, hrun, hL₂.quiet hquiet₃ (hconfiguration₃ ▸ hL₂.document)⟩
    · rcases bootstrap_of_error hports hadd with ⟨h₃, hquiet₃, hrun⟩
      rcases hfirst with ⟨p, after, heq, hbefore, hp⟩
      -- A port of the pool would have been refused, so going back by ports hits none of its servers.
      have hfree : ∀ q ∈ before, h.pool.contains q = false := by
        intro q hq
        refine contains_of_accepted hmake (hzero q ?_) (hbefore q hq)
        rw [heq]
        exact List.mem_append_left _ hq
      have hdistinct : before.Nodup := (List.nodup_append.mp (heq ▸ hnodup)).1
      rcases removeAll_spec k ((hS₂.quiet hquiet₃).receding hmake) hdistinct hfree with
        ⟨h₄, hremove, hR₄⟩
      rw [Nat.zero_add] at hR₄
      exact .inr ⟨before, f, h₄, ⟨p, after, heq, hbefore, hp⟩, hrun h₄ hremove, hR₄⟩

/-! ### All or none -/

/-- The servers that are made from settings for the ports of a configuration. -/
def made (settings : Settings) (host : Option Text) (behavior : Option Behavior)
    (hooks : Option (List Hook)) (port : Port) (registry : Registry) : Server :=
  Server.create settings (some port) host behavior (some registry) hooks

theorem makes_made (settings : Settings) (host : Option Text) (behavior : Option Behavior)
    (hooks : Option (List Hook)) : Makes (made settings host behavior hooks) where
  new _ _ := ⟨rfl, rfl, rfl, rfl⟩
  port _ _ := rfl

/-- Each of the ports has an open server with its registry, which the pool has under the port
    after all others, and nothing has happened to any server that was there before. -/
structure Grown (h : Host) (ports : List Port) (h' : Host) : Prop where
  server : ∀ (i : Nat) p, ports[i]? = some p →
    h'.pool.get? p = some (h.network.servers.size + i) ∧
    ∃ r s, h.registryOf p = .ok r ∧ h'.server? (h.network.servers.size + i) = some s ∧
      s.status = .opened ∧ s.listener.isSome ∧ s.port = p ∧ s.registry = r.freeze
  pool : h'.pool.servers =
    h.pool.servers ++ ports.zip (List.range' h.network.servers.size ports.length)
  old : ∀ id, id < h.network.servers.size → h'.server? id = h.server? id
  links : h'.network.links = h.network.links
  connections : h'.network.connections = h.network.connections

/-- The pool has the servers that it had under the ports they had, and nothing has happened to
    any server that was there before. Of those that are new the first `count` ones are closed,
    and the others have never been started. -/
structure Restored (h : Host) (count : Nat) (h' : Host) : Prop where
  pool : h'.pool.servers = h.pool.servers
  old : ∀ id, id < h.network.servers.size → h'.server? id = h.server? id
  closed : ∀ i, i < count → ∃ s, h'.server? (h.network.servers.size + i) = some s ∧
    s.status = .closed ∧ s.listener.isSome = false
  others : ∀ id s, h.network.servers.size + count ≤ id → h'.server? id = some s →
    s.status = .created ∧ s.listener = none
  links : h'.network.links = h.network.links
  connections : h'.network.connections = h.network.connections

theorem lookup_zip_range' (hnodup : done.Nodup) {i : Nat} (hp : done[i]? = some p) (start : Nat) :
    (done.zip (List.range' start done.length)).lookup p = some (start + i) := by
  induction done generalizing start i with
  | nil => injection hp
  | cons q rest ih =>
      rw [List.length_cons, List.range'_succ, List.zip_cons_cons]
      cases i with
      | zero =>
          injection hp with hp
          rw [hp, List.lookup_cons_self]
          rfl
      | succ i =>
          have hne : p ≠ q := by
            rintro rfl
            exact (List.nodup_cons.mp hnodup).1 (List.mem_of_getElem? hp)
          rw [List.lookup_cons, beq_eq_false_iff_ne.mpr hne]
          dsimp only
          rw [ih (List.nodup_cons.mp hnodup).2 hp, Nat.add_right_comm, Nat.add_assoc]

theorem Launched.grown (hL : Launched make h d done h₁)
    (hnodup : done.Nodup) (hfree : ∀ p ∈ done, h.pool.contains p = false)
    (hregistry : ∀ p r, (make p r).registry = r) : Grown h done h₁ where
  server i p hp := by
    rcases hL.new i p hp with ⟨r, a, hr, hs⟩
    have hnone := hfree p (List.mem_of_getElem? hp)
    rw [Pool.contains, Option.isSome_eq_false_iff, Option.isNone_iff_eq_none, Pool.get?] at hnone
    refine ⟨?_, r, _, hr, hs, rfl, rfl, rfl, ?_⟩
    · rw [Pool.get?, hL.pool, List.lookup_append, hnone, Option.none_or, lookup_zip_range' hnodup hp]
    · exact congrArg Registry.freeze (hregistry p r)
  pool := hL.pool
  old := hL.old
  links := hL.links
  connections := hL.connections

theorem Receding.restored {count : Nat} (hR : Receding h count [] h₁) : Restored h count h₁ where
  pool := hR.pool.trans (List.append_nil _)
  old := hR.old
  closed := hR.gone
  others := hR.rest
  links := hR.links
  connections := hR.connections

/-- Either every port of the configuration has a server in the end, or the pool is as it was and
    the servers that were started on the way are closed. The failure is then that of the first port
    that was refused, unless there were no ports to begin with. -/
theorem bootstrap_allOrNothing (k : Nat) (h : Host) (settings : Settings) (host : Option Text)
    (behavior : Option Behavior) (hooks : Option (List Hook)) (hsound : h.configuration.Sound)
    (herrors : h.network.SystemErrorsAtShutdown) :
    let make := made settings host behavior hooks
    ∃ result h', (bootstrap (.ofPatience k) make).runFrom h = (result, h') ∧
      ((∃ ports, h.portsOf = .ok ports ∧ (∀ p ∈ ports, h.refusal? make p = none) ∧
          result = .ok (List.range' h.network.servers.size ports.length) ∧ Grown h ports h') ∨
        ∃ f count, result = .error f ∧ Restored h count h' ∧
          (h.portsOf = .error f ∧ count = 0 ∨ ∃ ports before, h.portsOf = .ok ports ∧
            FirstRefused make h ports before f ∧ count = before.length)) := by
  intro make
  have hmake : Makes make := makes_made settings host behavior hooks
  rcases bootstrap_spec k hmake hsound herrors with
    ⟨f, h', hdocument, hrun, hR⟩ | ⟨d, hdocument, hvalid, hcases⟩
  · have hports : h.portsOf = .error f := by rw [portsOf_eq, hdocument]; rfl
    exact ⟨_, h', hrun, .inr ⟨f, 0, rfl, hR.restored, .inl ⟨hports, rfl⟩⟩⟩
  · have hports : h.portsOf = .ok d.ports := by rw [portsOf_eq, hdocument]; rfl
    rcases hcases with ⟨h', hall, hrun, hL⟩ | ⟨before, f, h', hfirst, hrun, hR⟩
    · have hfree : ∀ p ∈ d.ports, h.pool.contains p = false := fun p hp =>
        contains_of_accepted hmake (hvalid.ne_zero hp) (hall p hp)
      refine ⟨_, h', hrun, .inl ⟨d.ports, hports, hall, rfl, ?_⟩⟩
      exact hL.grown d.ports_nodup hfree fun _ _ => rfl
    · exact ⟨_, h', hrun, .inr ⟨f, before.length, rfl, hR.restored,
        .inr ⟨d.ports, before, hports, hfirst, rfl⟩⟩⟩

/-- The second of three ports is taken, so none of them has a server in the end. -/
theorem bootstrap_allOrNothing_taken :
    let settings : Settings := .usual ""
    let server : Server :=
      { Server.create settings (some 7002) with status := .opened, listener := some {} }
    let document : Document := ⟨[⟨7001, []⟩, ⟨7002, []⟩, ⟨7003, []⟩]⟩
    let h : Host :=
      { network := { settings, servers := #[server] }
        configuration :=
          { Configuration.create settings ⟨[], [], []⟩ none none with document := some document }
        pool := { servers := [(7002, 0)] } }
    h.configuration.Sound ∧ h.network.SystemErrorsAtShutdown ∧
      ∃ f h', (bootstrap (.ofPatience 1) (made settings none none none)).runFrom h =
          (.error f, h') ∧ h'.pool.servers = [(7002, 0)] ∧ h'.server? 0 = some server := by
  intro settings server document h
  have hsound : h.configuration.Sound := by
    intro d hd
    injection hd with hd
    rw [← hd]
    unfold Document.Valid
    decide
  have herrors : h.network.SystemErrorsAtShutdown := fun x hx => (List.not_mem_nil hx).elim
  refine ⟨hsound, herrors, ?_⟩
  rcases bootstrap_allOrNothing 1 h settings none none none hsound herrors with
    ⟨result, h', hrun, ⟨ports, hports, hall, -⟩ | ⟨f, count, hresult, hrestored, -⟩⟩
  · -- It is a port of the document, so not all of them have been accepted.
    have hrefused : (h.refusal? (made settings none none none) 7002).isSome = true := by decide +kernel
    have htaken : (7002 : Port) ∈ ports := by
      have hok : h.portsOf = .ok document.ports := rfl
      injection hok.symm.trans hports with hports
      rw [← hports]
      exact (document.mem_ports 7002).mpr ⟨⟨7002, []⟩, by decide, rfl⟩
    rw [hall 7002 htaken] at hrefused
    injection hrefused
  · exact ⟨f, h', hresult ▸ hrun, hrestored.pool, hrestored.old 0 Nat.one_pos⟩

end

end Host

end MockHost
