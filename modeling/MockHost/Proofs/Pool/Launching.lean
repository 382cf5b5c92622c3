import MockHost.Proofs.Configuration.Ports
import MockHost.Proofs.Pool.Addition
import Mathlib.Data.List.Nodup

/-!
# One Server after Another

The ports of a configuration are gone through in order, and each of them is given a server
or refused: its registry cannot be made, the pool has a server on it already, it cannot be
bound. Whether it is refused is decided by what the host is in the beginning, for neither
the other ports nor their servers make a difference to it.

What carries the way is an invariant that says of every server what has become of it: the
servers that were there before are what they were, each port that has been gone through has
an open server to which no client has come, and what may come after these has never listened.

## Main definitions

* `Host.documentOf`, `Host.portsOf`, `Host.registryOf`: What the configuration of a host gives.
* `Host.refusal?`, `Host.FirstRefused`: Why a port is refused, and which is the first.
* `Host.Standing`, `Host.Launched`: What has become of a host on the way.

## Theorems

* `Host.registers_of_load`: The registries do not depend on when they are asked for.
* `Host.Launched.step`, `Host.addPorts_spec`: One port and all of them.
-/

namespace MockHost

namespace Host

/-- The document of the configuration. -/
def documentOf (h : Host) : Except Failure Document :=
  ((onConfiguration Configuration.load).runFrom h).1

/-- The ports of the configuration. -/
def portsOf (h : Host) : Except Failure (List Port) :=
  ((onConfiguration Configuration.ports).runFrom h).1

/-- The registry of a port. -/
def registryOf (h : Host) (port : Port) : Except Failure Registry :=
  ((onConfiguration (Configuration.registry port)).runFrom h).1

/-- Why a port is refused, if it is. -/
def refusal? (make : Port → Registry → Server) (h : Host) (port : Port) : Option Failure :=
  match h.registryOf port with
  | .error f => some f
  | .ok r => h.obstacle? (make port r)

/-- Nothing but the trace and the configuration has changed. -/
structure Quiet (h h' : Host) : Prop where
  network : ∃ trace, h'.network = { h.network with trace }
  pool : h'.pool = h.pool

/-- Whoever asks for a registry when the document has been read is given the same one. -/
def Registers (h : Host) (d : Document) : Prop :=
  ∀ p h₁, h₁.configuration.document = some d →
    ∃ h₂, (onConfiguration (Configuration.registry p)).runFrom h₁ = (h.registryOf p, h₂) ∧
      h₂.configuration.document = some d ∧ Quiet h₁ h₂

/-- The first port that is refused comes after the ports `done`. -/
def FirstRefused (make : Port → Registry → Server) (h : Host) (ports done : List Port)
    (f : Failure) : Prop :=
  ∃ p rest, ports = done ++ p :: rest ∧ (∀ q ∈ done, h.refusal? make q = none) ∧
    h.refusal? make p = some f

/-- The servers that are made for ports are new ones. -/
structure Makes (make : Port → Registry → Server) : Prop where
  new : ∀ p r, (make p r).New
  port : ∀ p r, (make p r).port = p

/-- The host has a server for each of the ports `done`, and what comes after them has not
    listened. The servers that were there before are what they were. -/
structure Standing (make : Port → Registry → Server) (h : Host) (done : List Port)
    (h' : Host) : Prop where
  old : ∀ j, j < h.network.servers.size → h'.network.servers[j]? = h.network.servers[j]?
  new : ∀ (i : Nat) p, done[i]? = some p → ∃ r a, h.registryOf p = .ok r ∧
    h'.network.servers[h.network.servers.size + i]? = some ((make p r).listening p a)
  rest : ∀ j s, h.network.servers.size + done.length ≤ j → h'.network.servers[j]? = some s →
    s.status = .created ∧ s.listener = none
  pool : h'.pool.servers =
    h.pool.servers ++ done.zip (List.range' h.network.servers.size done.length)
  links : h'.network.links = h.network.links
  connections : h'.network.connections = h.network.connections
  systemErrors : h'.network.SystemErrorsAtShutdown

/-- The same, when nothing comes after them. For the other ports nothing has changed. -/
structure Launched (make : Port → Registry → Server) (h : Host) (d : Document)
    (done : List Port) (h' : Host) : Prop extends Standing make h done h' where
  size : h'.network.servers.size = h.network.servers.size + done.length
  bindFaults : h'.network.bindFaults = h.network.bindFaults
  bound : ∀ p, p ∉ done → p ≠ 0 → h'.network.bound? p = h.network.bound? p
  document : h'.configuration.document = some d

theorem onConfiguration_spec {α : Type} (a : Act Configuration α) (h : Host) :
    ∃ h', (onConfiguration a).runFrom h =
        ((a.runFrom { h.configuration with trace := #[] }).1, h') ∧
      h'.configuration = (a.runFrom { h.configuration with trace := #[] }).2 ∧ Quiet h h' :=
  ⟨_, rfl, rfl, ⟨_, rfl⟩, rfl⟩

theorem Quiet.servers {h h' : Host} (hquiet : Quiet h h') :
    h'.network.servers = h.network.servers := by
  rcases hquiet.network with ⟨trace, hnetwork⟩
  rw [hnetwork]

theorem Quiet.systemErrors {h h' : Host} (hquiet : Quiet h h')
    (herrors : h.network.SystemErrorsAtShutdown) : h'.network.SystemErrorsAtShutdown := by
  rcases hquiet.network with ⟨trace, hnetwork⟩
  rw [hnetwork]
  exact herrors

theorem Quiet.obstacle? {h h' : Host} (hquiet : Quiet h h') (s : Server) :
    h'.obstacle? s = h.obstacle? s := by
  rcases hquiet with ⟨⟨trace, hnetwork⟩, hpool⟩
  rw [Host.obstacle?, Host.obstacle?, hpool, hnetwork]
  rfl

theorem registry_runFrom (h : Host) (p : Port) :
    ∃ h', (onConfiguration (Configuration.registry p)).runFrom h = (h.registryOf p, h') ∧
      Quiet h h' := by
  rcases onConfiguration_spec (Configuration.registry p) h with ⟨h', hrun, -, hquiet⟩
  exact ⟨h', hrun, hquiet⟩

/-- Without a document there are no registries. -/
theorem registryOf_of_error {h : Host} {f : Failure} (hdocument : h.documentOf = .error f)
    (p : Port) : h.registryOf p = .error f := by
  rcases hload : Configuration.load.runFrom { h.configuration with trace := #[] } with ⟨r, c⟩
  have hr : r = .error f := (congrArg Prod.fst hload).symm.trans hdocument
  rw [hr] at hload
  exact congrArg Prod.fst (Act.runFrom_bind_error hload _)

theorem portsOf_eq (h : Host) : h.portsOf = h.documentOf.map Document.ports := by
  rcases onConfiguration_spec Configuration.load h with ⟨h₁, hload, -⟩
  rcases onConfiguration_spec Configuration.ports h with ⟨h₂, hports, -⟩
  rw [portsOf, documentOf, hports, hload, Configuration.ports, Act.runFrom_bind]
  rcases Configuration.load.runFrom { h.configuration with trace := #[] } with ⟨f | d, c⟩
  · rfl
  · rfl

theorem registers_of_load {h : Host} {d : Document} {c : Configuration}
    (hload : Configuration.load.runFrom { h.configuration with trace := #[] } = (.ok d, c)) :
    Registers h d := by
  intro p h₁ hd
  rcases onConfiguration_spec (Configuration.registry p) h with ⟨h₀, hrun₀, -⟩
  rcases onConfiguration_spec (Configuration.registry p) h₁ with ⟨h₂, hrun₂, hconfiguration, hquiet⟩
  -- In both hosts the registry is filled from what the same document holds for the port.
  have hd₁ : ({ h₁.configuration with trace := #[] } : Configuration).document = some d := hd
  refine ⟨h₂, ?_, ?_, hquiet⟩
  · rw [hrun₂, registryOf, hrun₀, Configuration.registry_of_load hload p]
    exact congrArg (·, h₂) (Configuration.registry_spec hd₁ p).1
  · rw [hconfiguration]
    exact (@Configuration.registry_spec _ c _ hd₁ p).2

/-- What a host has come to does not depend on its configuration, nor on the trace. -/
theorem Standing.quiet {make : Port → Registry → Server} {h h₁ h₂ : Host} {done : List Port}
    (hS : Standing make h done h₁) (hquiet : Quiet h₁ h₂) : Standing make h done h₂ := by
  rcases hquiet with ⟨⟨trace, hnetwork⟩, hpool⟩
  refine { old := ?_, new := ?_, rest := ?_, pool := hpool ▸ hS.pool, links := ?_,
           connections := ?_, systemErrors := ?_ }
  · rw [hnetwork]
    exact hS.old
  · rw [hnetwork]
    exact hS.new
  · rw [hnetwork]
    exact hS.rest
  · rw [hnetwork]
    exact hS.links
  · rw [hnetwork]
    exact hS.connections
  · rw [hnetwork]
    exact hS.systemErrors

theorem Launched.quiet {make : Port → Registry → Server} {h h₁ h₂ : Host} {d : Document}
    {done : List Port} (hL : Launched make h d done h₁) (hquiet : Quiet h₁ h₂)
    (hdocument : h₂.configuration.document = some d) : Launched make h d done h₂ := by
  refine { toStanding := hL.toStanding.quiet hquiet, size := ?_, bindFaults := ?_, bound := ?_,
           document := hdocument }
  all_goals
    rcases hquiet with ⟨⟨trace, hnetwork⟩, -⟩
    rw [hnetwork]
  · exact hL.size
  · exact hL.bindFaults
  · exact hL.bound

/-- To begin with there is nothing new. -/
theorem Standing.refl {make : Port → Registry → Server} {h : Host}
    (herrors : h.network.SystemErrorsAtShutdown) : Standing make h [] h where
  old _ _ := rfl
  new i p hp := by injection hp
  rest j s hj hs := absurd hj (Nat.not_le_of_lt (Array.getElem?_eq_some_iff.mp hs).1)
  pool := (List.append_nil _).symm
  links := rfl
  connections := rfl
  systemErrors := herrors

theorem Launched.start {make : Port → Registry → Server} {h h₁ : Host} {d : Document}
    (hquiet : Quiet h h₁) (hdocument : h₁.configuration.document = some d)
    (herrors : h.network.SystemErrorsAtShutdown) : Launched make h d [] h₁ := by
  have hstanding : Standing make h [] h₁ := (Standing.refl herrors).quiet hquiet
  rcases hquiet with ⟨⟨trace, hnetwork⟩, -⟩
  refine { toStanding := hstanding, size := ?_, bindFaults := ?_, bound := fun p _ _ => ?_,
           document := hdocument }
  · rw [hnetwork]
    rfl
  · rw [hnetwork]
  · rw [hnetwork]
    rfl

section

variable {make : Port → Registry → Server} {h h₁ : Host} {d : Document} {done : List Port}
  {p : Port}

/-- Nobody has taken a port that has not been gone through. -/
theorem Standing.contains (hS : Standing make h done h₁) (hp : p ∉ done) :
    h₁.pool.contains p = h.pool.contains p := by
  -- Whatever has joined the pool is there under a port that has been gone through.
  have hzip : (done.zip (List.range' h.network.servers.size done.length)).lookup p = none := by
    refine List.lookup_eq_none_iff.mpr fun e he => ?_
    rw [bne_iff_ne]
    rintro rfl
    exact hp (List.of_mem_zip he).1
  rw [Pool.contains, Pool.contains, Pool.get?, Pool.get?, hS.pool, List.lookup_append, hzip,
    Option.or_none]

/-- Nothing but what was in its way in the beginning is in the way of the next server. -/
theorem Launched.obstacle? (hL : Launched make h d done h₁) {s : Server} (hs : s.port ∉ done)
    (hzero : s.port ≠ 0) : h₁.obstacle? s = h.obstacle? s := by
  rw [Host.obstacle?, Host.obstacle?, hL.contains hs, hL.bound _ hs hzero]

/-- The servers that were there before, and those of the ports that have been gone through, are not
    changed by one that comes after them. -/
theorem Launched.push (hL : Launched make h d done h₁) {s : Server} {h₂ : Host}
    (hservers : h₂.network.servers = h₁.network.servers.push s) :
    (∀ j, j < h.network.servers.size → h₂.network.servers[j]? = h.network.servers[j]?) ∧
      ∀ (i : Nat) q, done[i]? = some q → ∃ r a, h.registryOf q = .ok r ∧
        h₂.network.servers[h.network.servers.size + i]? = some ((make q r).listening q a) := by
  have hsame : ∀ j, j < h₁.network.servers.size →
      h₂.network.servers[j]? = h₁.network.servers[j]? := by
    intro j hj
    rw [hservers, Array.getElem?_push, if_neg (Nat.ne_of_lt hj)]
  refine ⟨fun j hj => ?_, fun i q hq => ?_⟩
  · rw [hsame j (by rw [hL.size]; omega), hL.old j hj]
  · rcases hL.new i q hq with ⟨r, a, hr, hs⟩
    exact ⟨r, a, hr, (hsame _ (Array.getElem?_eq_some_iff.mp hs).1).trans hs⟩

/-- A server that has been added is the one of the next port. -/
theorem Launched.added (hL : Launched make h d done h₁) (hp : p ∉ done) (hzero : p ≠ 0)
    {r : Registry} (hr : h.registryOf p = .ok r) (hport : (make p r).port = p) {h₂ : Host}
    (hadded : Added h₁ (make p r) h₂) (hbesides : Besides h₁ h₂) :
    Launched make h d (done ++ [p]) h₂ := by
  rcases hadded.servers with ⟨port, a, hbound, hservers, hpool⟩
  rw [hport] at hbound
  -- The choice was not left open, so the port that is bound is the one that was asked for.
  have heq : port = p := bound?_eq hbound hzero
  subst heq
  have hsize : h₂.network.servers.size = h.network.servers.size + (done ++ [port]).length := by
    rw [hservers, Array.size_push, hL.size, List.length_append, List.length_singleton, Nat.add_assoc]
  have hpush := hL.push hservers
  refine { old := hpush.1, new := ?_, rest := ?_, pool := ?_, size := hsize, bound := ?_,
           links := hbesides.links.trans hL.links,
           connections := hbesides.connections.trans hL.connections,
           systemErrors := hbesides.systemErrors hL.systemErrors,
           bindFaults := hadded.bindFaults.trans hL.bindFaults,
           document := hbesides.configuration ▸ hL.document }
  · intro i q hq
    by_cases hi : i < done.length
    · rw [List.getElem?_append_left hi] at hq
      exact hpush.2 i q hq
    · -- It is the one that has been added.
      rw [List.getElem?_append_right (Nat.le_of_not_lt hi), List.getElem?_singleton] at hq
      split at hq
      · injection hq with hq
        subst hq
        have hlast : h.network.servers.size + i = h₁.network.servers.size := by
          rw [hL.size]
          omega
        exact ⟨r, a, hr, by rw [hservers, Array.getElem?_push, if_pos hlast]⟩
      · injection hq
  · intro j s hj hs
    have hlt := (Array.getElem?_eq_some_iff.mp hs).1
    omega
  · rw [hpool, hL.pool, hL.size, List.append_assoc, List.length_append, List.length_singleton,
      List.range'_concat, Nat.one_mul, List.zip_append (List.length_range').symm]
    rfl
  · intro q hq hq0
    rw [List.mem_append, List.mem_singleton, not_or] at hq
    rw [← hL.bound q hq.1 hq0]
    -- One more server listens, but on another port than this one.
    refine Network.bound?_congr hadded.bindFaults (fun h0 => (hq0 h0).elim) ?_
    have hdiffers : ((make port r).listening port a).port ≠ q := fun h => hq.2 h.symm
    rw [hservers, Array.any_push, beq_eq_false_iff_ne.mpr hdiffers, Bool.and_false, Bool.or_false]

/-- If something has been in its way, nothing has come of the next server. -/
theorem Launched.hindered (hL : Launched make h d done h₁) {h₂ : Host}
    (hhindered : Hindered h₁ h₂) (hbesides : Besides h₁ h₂) : Standing make h done h₂ := by
  rcases hhindered.servers with ⟨s, hservers, hcreated, hlistener⟩
  have hpush := hL.push hservers
  refine { old := hpush.1, new := hpush.2, rest := ?_, pool := hhindered.pool ▸ hL.pool,
           links := hbesides.links.trans hL.links,
           connections := hbesides.connections.trans hL.connections,
           systemErrors := hbesides.systemErrors hL.systemErrors }
  intro j t hj ht
  rw [hservers, Array.getElem?_push] at ht
  split at ht
  · injection ht with ht
    exact ht ▸ ⟨hcreated, hlistener⟩
  · exact hL.rest j t hj ht

/-- Adds a server for one port. -/
def addPort (sch : Scheduler) (make : Port → Registry → Server) (port : Port) :
    Act Host ServerId := do
  let registry ← onConfiguration (Configuration.registry port)
  addNew sch (make port registry)

theorem addPorts_cons_ok {sch : Scheduler} {id : ServerId} {h₂ : Host}
    (hrun : (addPort sch make p).runFrom h₁ = (.ok id, h₂)) (started : List ServerId)
    (rest : List Port) : (addPorts sch make started (p :: rest)).runFrom h₁ =
      (addPorts sch make (started ++ [id]) rest).runFrom h₂ := by
  have hattempt : (Act.attempt (addPort sch make p)).runFrom h₁ = (.ok (.ok id), h₂) := by
    rw [Act.runFrom_attempt, hrun]
  rw [addPorts]
  exact Act.runFrom_bind_ok hattempt _

theorem addPorts_cons_error {sch : Scheduler} {f : Failure} {h₂ : Host}
    (hrun : (addPort sch make p).runFrom h₁ = (.error f, h₂)) (started : List ServerId)
    (rest : List Port) : (addPorts sch make started (p :: rest)).runFrom h₁ =
      (.ok (started, .error f), h₂) := by
  have hattempt : (Act.attempt (addPort sch make p)).runFrom h₁ = (.ok (.error f), h₂) := by
    rw [Act.runFrom_attempt, hrun]
  rw [addPorts]
  exact Act.runFrom_bind_ok hattempt _

/-- The next port is given a server, unless it is refused. -/
theorem Launched.step (k : Nat) (hmake : Makes make) (hregisters : Registers h d)
    (hL : Launched make h d done h₁) (hp : p ∉ done) (hzero : p ≠ 0) :
    ∃ h₂, match h.refusal? make p with
      | none => (addPort (.ofPatience k) make p).runFrom h₁ =
          (.ok (h.network.servers.size + done.length), h₂) ∧ Launched make h d (done ++ [p]) h₂
      | some f => (addPort (.ofPatience k) make p).runFrom h₁ = (.error f, h₂) ∧
          Standing make h done h₂ := by
  -- Asking for the registry changes nothing that the next server could come across.
  rcases hregisters p h₁ hL.document with ⟨h₂, hregistry, hdocument, hquiet⟩
  have hL₂ : Launched make h d done h₂ := hL.quiet hquiet hdocument
  rw [addPort, refusal?]
  cases hr : h.registryOf p with
  | error f =>
      rw [hr] at hregistry
      exact ⟨h₂, Act.runFrom_bind_error hregistry _, hL₂.toStanding⟩
  | ok r =>
      rw [hr] at hregistry
      have hport : (make p r).port = p := hmake.port p r
      have hfirst : (make p r).port = 0 → h₂.pool.servers = [] :=
        fun h0 => absurd (hport.symm.trans h0) hzero
      rcases addNew_spec k h₂ (hmake.new p r) hfirst with ⟨h₃, hbesides, hadd⟩
      rw [hL₂.obstacle? (by rwa [hport]) (by rwa [hport])] at hadd
      refine ⟨h₃, ?_⟩
      rw [Act.runFrom_bind_ok hregistry]
      dsimp only
      cases hobstacle : h.obstacle? (make p r) with
      | none =>
          rw [hobstacle] at hadd
          rw [← hL₂.size]
          exact ⟨hadd.1, hL₂.added hp hzero hr hport hadd.2 hbesides⟩
      | some f =>
          rw [hobstacle] at hadd
          exact ⟨hadd.1, hL₂.hindered hadd.2 hbesides⟩

/-- All ports are given servers, or those before the first that is refused. -/
theorem addPorts_spec (k : Nat) (hmake : Makes make) (hregisters : Registers h d)
    (rest : List Port) (hL : Launched make h d done h₁) (hnodup : (done ++ rest).Nodup)
    (hzero : ∀ p ∈ rest, p ≠ 0) :
    (∃ h₂, (∀ p ∈ rest, h.refusal? make p = none) ∧
      (addPorts (.ofPatience k) make (List.range' h.network.servers.size done.length)
        rest).runFrom h₁ =
        (.ok (List.range' h.network.servers.size (done ++ rest).length, .ok ()), h₂) ∧
      Launched make h d (done ++ rest) h₂) ∨
    ∃ before f h₂, FirstRefused make h rest before f ∧
      (addPorts (.ofPatience k) make (List.range' h.network.servers.size done.length)
        rest).runFrom h₁ =
        (.ok (List.range' h.network.servers.size (done ++ before).length, .error f), h₂) ∧
      Standing make h (done ++ before) h₂ := by
  -- On the ports that are left. What carries the induction is that the numbers of the servers
  -- which have been added are the next ones after those that there were before.
  induction rest generalizing done h₁ with
  | nil =>
      refine .inl ⟨h₁, fun p hp => (List.not_mem_nil hp).elim, ?_, ?_⟩
      · rw [List.append_nil]
        rfl
      · rwa [List.append_nil]
  | cons p rest ih =>
      have hp : p ∉ done := fun hp =>
        (List.nodup_append.mp hnodup).2.2 p hp p List.mem_cons_self rfl
      rcases hL.step k hmake hregisters hp (hzero p List.mem_cons_self) with ⟨h₂, hstep⟩
      cases hrefusal : h.refusal? make p with
      | some f =>
          -- This is the first port that is refused, and no other is tried.
          rw [hrefusal] at hstep
          refine .inr ⟨[], f, h₂, ⟨p, rest, rfl, fun q hq => (List.not_mem_nil hq).elim, hrefusal⟩,
            ?_, ?_⟩
          · rw [addPorts_cons_error hstep.1, List.append_nil]
          · rw [List.append_nil]
            exact hstep.2
      | none =>
          rw [hrefusal] at hstep
          have hids : List.range' h.network.servers.size done.length ++
              [h.network.servers.size + done.length] =
                List.range' h.network.servers.size (done ++ [p]).length := by
            rw [List.length_append, List.length_singleton, List.range'_concat, Nat.one_mul]
          have hsplit : done ++ p :: rest = done ++ [p] ++ rest := by
            rw [List.append_assoc, List.singleton_append]
          rw [hsplit] at hnodup ⊢
          rw [addPorts_cons_ok hstep.1, hids]
          -- The port belongs to those that have been gone through, whatever comes of the others.
          rcases ih hstep.2 hnodup (fun q hq => hzero q (List.mem_cons_of_mem p hq)) with
            ⟨h₃, hall, hrun, hL₃⟩ | ⟨before, f, h₃, hfirst, hrun, hS₃⟩
          · refine .inl ⟨h₃, fun q hq => ?_, hrun, hL₃⟩
            rcases List.mem_cons.mp hq with rfl | hq
            · exact hrefusal
            · exact hall q hq
          · rcases hfirst with ⟨q, after, rfl, hbefore, hq⟩
            refine .inr ⟨p :: before, f, h₃, ⟨q, after, rfl, fun r hr => ?_, hq⟩, ?_, ?_⟩
            · rcases List.mem_cons.mp hr with rfl | hr
              · exact hrefusal
              · exact hbefore r hr
            · rw [hrun, List.append_assoc, List.singleton_append]
            · rw [← List.singleton_append, ← List.append_assoc]
              exact hS₃

end

end Host

end MockHost
