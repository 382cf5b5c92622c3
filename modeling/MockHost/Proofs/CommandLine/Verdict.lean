import MockHost.CommandLine.Run
import MockHost.Proofs.Configuration.Faults
import MockHost.Proofs.Pool.Launching

/-!
# How the Command Is to End

How the command ends is decided before any client comes: by the document, and if there is
one by the first of the ports that cannot be served. There is one way to end for everything
that there may be in the beginning, and where servers are refused it is the failure of the
first one that tells which way it is.

Not every way leads to a code. Those that do not are the ways in which a configuration fails
with something else than a report of its own, and a port for which there is no address.

## Main definitions

* `Document.Proper`, `Document.Servable`: What a port needs to be served.
* `Command.Serves`, `Command.Ends`: How the command ends, judged from what there is in the
  beginning.
* `Command.code?`: The code that a failure makes the command end with.

## Theorems

* `Command.Ends.unique`: There is only one way to end.
* `Command.refusal?_spec`: Why the first server of a host is refused.
* `Command.serves_of_accepted`, `Command.serves_of_refused`, `Command.ends_of_load`: What this
  makes of the command.
-/

namespace MockHost

namespace Document

/-- Every payload for a port can be read. -/
def Readable (d : Document) (p : Port) : Prop :=
  ∀ x ∈ d.responsesOn p, ∃ payload, Escape.unescape? x.2.message = .ok payload

/-- What a port needs to be served, as far as it is up to the document and the port: there is such
    a port, and its payloads can be read. -/
structure Proper (d : Document) (p : Port) : Prop where
  readable : d.Readable p
  range : 0 ≤ p ∧ p ≤ 65535

/-- All that a port needs to be served: its address can be listened on, too. -/
structure Servable (d : Document) (unavailable : List Port) (p : Port) : Prop
    extends Proper d p where
  available : p ∉ unavailable

end Document

namespace Command

/-- The ports that are to be served. -/
def requested (d : Document) : Arguments.Mode → List Port
  | .single p => [p]
  | .pool => d.ports

/-- A port is the first that is not good. -/
def FirstFailing (good : Port → Prop) (ports : List Port) (p : Port) : Prop :=
  ∃ before after, ports = before ++ p :: after ∧ (∀ q ∈ before, good q) ∧ ¬ good p

/-- How serving ports ends, judged from what there is in the beginning: with which code, if it
    ends with one at all. -/
inductive Serves (d : Document) (unavailable ports : List Port) : Option Nat → Prop where
  | all : (∀ p ∈ ports, d.Servable unavailable p) → Serves d unavailable ports (some 0)
  /-- The address of the first port that cannot be served cannot be listened on. -/
  | unavailable (p : Port) : FirstFailing (d.Servable unavailable) ports p → d.Proper p →
      Serves d unavailable ports (some 1)
  /-- The first port that cannot be served has a payload that cannot be read, or is no port. -/
  | improper (p : Port) : FirstFailing (d.Servable unavailable) ports p → ¬ d.Proper p →
      Serves d unavailable ports none

/-- How the command ends, judged from what there is in the beginning: with which code, if it ends
    with one at all. -/
inductive Ends (c : Configuration) (mode : Arguments.Mode) (unavailable : List Port) :
    Option Nat → Prop where
  /-- There is no document, and nothing keeps that from being reported. -/
  | unusable : (∀ d, (Configuration.load.runFrom c).1 ≠ .ok d) → (∀ f, ¬ c.Unreported f) →
      Ends c mode unavailable (some 2)
  /-- There is none, for a cause that is not reported. -/
  | unreported (f : Failure) : c.Unreported f → Ends c mode unavailable none
  | document (d : Document) (e : Option Nat) : (Configuration.load.runFrom c).1 = .ok d →
      Serves d unavailable (requested d mode) e → Ends c mode unavailable e

/-! ### Only one way to end -/

section

variable {good : Port → Prop} {ports unavailable : List Port} {p q : Port} {e e' : Option Nat}

theorem FirstFailing.not_all (h : FirstFailing good ports p) : ¬ ∀ q ∈ ports, good q := by
  rcases h with ⟨before, after, rfl, -, hp⟩
  exact fun hall => hp (hall p (List.mem_append_right _ List.mem_cons_self))

theorem FirstFailing.unique (hp : FirstFailing good ports p) (hq : FirstFailing good ports q) :
    p = q := by
  rcases hp with ⟨before, after, heq, hbefore, hfails⟩
  rcases hq with ⟨before', after', heq', hbefore', hfails'⟩
  -- If one of them came later, the other would be among the good ones before it.
  rcases List.append_eq_append_iff.mp (heq.symm.trans heq') with
    ⟨_ | ⟨x, t⟩, hlist, hrest⟩ | ⟨_ | ⟨x, t⟩, hlist, hrest⟩
  · injection hrest
  · injection hrest with hx
    refine absurd (hbefore' p ?_) hfails
    rw [hlist, hx]
    exact List.mem_append_right _ List.mem_cons_self
  · injection hrest with hx
    exact hx.symm
  · injection hrest with hx
    refine absurd (hbefore q ?_) hfails'
    rw [hlist, hx]
    exact List.mem_append_right _ List.mem_cons_self

theorem Serves.unique {d : Document} (h : Serves d unavailable ports e)
    (h' : Serves d unavailable ports e') : e = e' := by
  cases h with
  | all hall =>
      cases h' with
      | all _ => rfl
      | unavailable p hp _ => exact absurd hall hp.not_all
      | improper p hp _ => exact absurd hall hp.not_all
  | unavailable p hp hproper =>
      cases h' with
      | all hall => exact absurd hall hp.not_all
      | unavailable q hq _ => rfl
      | improper q hq himproper => exact absurd (hp.unique hq ▸ hproper) himproper
  | improper p hp himproper =>
      cases h' with
      | all hall => exact absurd hall hp.not_all
      | unavailable q hq hproper => exact absurd (hp.unique hq ▸ hproper) himproper
      | improper q hq _ => rfl

/-- There is only one way to end. -/
theorem Ends.unique {c : Configuration} {mode : Arguments.Mode} (h : Ends c mode unavailable e)
    (h' : Ends c mode unavailable e') : e = e' := by
  -- What tells the ways apart is whether there is a document, and if there is none, why.
  have hfails : ∀ f, c.Unreported f → ∀ d, (Configuration.load.runFrom c).1 ≠ .ok d := by
    intro f hf d hd
    rcases Configuration.load_unreported hf with ⟨c', hload⟩
    rw [hload] at hd
    injection hd
  cases h with
  | unusable hnone hreported =>
      cases h' with
      | unusable _ _ => rfl
      | unreported f hf => exact absurd hf (hreported f)
      | document d _ hd _ => exact absurd hd (hnone d)
  | unreported f hf =>
      cases h' with
      | unusable _ hreported => exact absurd hf (hreported f)
      | unreported _ _ => rfl
      | document d _ hd _ => exact absurd hd (hfails f hf d)
  | document d _ hd hserves =>
      cases h' with
      | unusable hnone _ => exact absurd hd (hnone d)
      | unreported f hf => exact absurd hd (hfails f hf d)
      | document d' _ hd' hserves' =>
          injection hd.symm.trans hd' with heq
          exact hserves.unique (heq ▸ hserves')

end

end Command

/-! ### The first servers of a host -/

namespace Host

/-- A host without servers. Some addresses cannot be listened on. -/
structure Fresh (faults : List (Port × SystemError)) (h : Host) : Prop where
  servers : h.network.servers = #[]
  pool : h.pool.servers = []
  bindFaults : h.network.bindFaults = faults.map fun x => (x.1, .system x.2)
  systemErrors : h.network.SystemErrorsAtShutdown
  sound : h.configuration.Sound

theorem Fresh.quiet {faults : List (Port × SystemError)} {h h' : Host} (hfresh : Fresh faults h)
    (hquiet : Quiet h h') (hconfiguration : h'.configuration = h.configuration) :
    Fresh faults h' := by
  refine ⟨hquiet.servers.trans hfresh.servers, hquiet.pool ▸ hfresh.pool, ?_,
    hquiet.systemErrors hfresh.systemErrors, hconfiguration ▸ hfresh.sound⟩
  rcases hquiet.network with ⟨trace, hnetwork⟩
  rw [hnetwork]
  exact hfresh.bindFaults

/-- The failures to listen are those of the addresses that cannot be listened on. -/
theorem takeFault_map (p : Port) (faults : List (Port × SystemError)) :
    (∃ e rest, Network.takeFault p (faults.map fun x => (x.1, Failure.system x.2)) =
      some (.system e, rest)) ∧ p ∈ faults.map Prod.fst ∨
    Network.takeFault p (faults.map fun x => (x.1, Failure.system x.2)) = none ∧
      p ∉ faults.map Prod.fst := by
  -- On the failures, of which the first for the port is the one that is taken.
  induction faults with
  | nil => exact .inr ⟨rfl, List.not_mem_nil⟩
  | cons x faults ih =>
      rcases x with ⟨q, e⟩
      rw [List.map_cons, List.map_cons, Network.takeFault]
      by_cases hq : q = p
      · rw [if_pos hq]
        exact .inl ⟨⟨e, _, rfl⟩, hq ▸ List.mem_cons_self⟩
      · rw [if_neg hq]
        rcases ih with ⟨⟨e', rest, htake⟩, hmem⟩ | ⟨htake, hmem⟩
        · rw [htake]
          exact .inl ⟨⟨e', _, rfl⟩, List.mem_cons_of_mem q hmem⟩
        · rw [htake]
          refine .inr ⟨rfl, fun hp => ?_⟩
          rcases List.mem_cons.mp hp with hp | hp
          · exact hq hp.symm
          · exact hmem hp

section

variable {faults : List (Port × SystemError)} {h : Host} {p : Port}

/-- What the port of a first server comes to. -/
theorem Fresh.bound?_cases (hfresh : Fresh faults h) (p : Port) :
    (∃ q, h.network.bound? p = .ok q) ∧ (0 ≤ p ∧ p ≤ 65535) ∧ p ∉ faults.map Prod.fst ∨
    (∃ e, h.network.bound? p = .error (.system e)) ∧ (0 ≤ p ∧ p ≤ 65535) ∧
      p ∈ faults.map Prod.fst ∨
    h.network.bound? p = .error .portOutOfRange ∧ ¬ (0 ≤ p ∧ p ≤ 65535) := by
  -- There are no servers, so nobody listens on the port.
  have hlistener : (h.network.listenerOn? p).isSome = false := by
    rw [Network.listenerOn?, hfresh.servers, Array.findIdx?_isSome, ← Array.any_toList]
    rfl
  rw [Network.bound?, hfresh.bindFaults, hlistener]
  by_cases hrange : p < 0 ∨ 65535 < p
  · rw [if_pos hrange]
    refine .inr (.inr ⟨rfl, fun hp => ?_⟩)
    rcases hrange with hlow | hhigh
    · exact Int.not_lt.mpr hp.1 hlow
    · exact Int.not_lt.mpr hp.2 hhigh
  · rw [if_neg hrange]
    rw [not_or, Int.not_lt, Int.not_lt] at hrange
    rcases takeFault_map p faults with ⟨⟨e, rest, htake⟩, hmem⟩ | ⟨htake, hmem⟩
    · rw [htake]
      exact .inr (.inl ⟨⟨e, rfl⟩, hrange, hmem⟩)
    · rw [htake]
      dsimp only
      rw [if_neg Bool.false_ne_true]
      by_cases hzero : p = 0
      · rw [if_pos hzero]
        exact .inl ⟨⟨_, rfl⟩, hrange, hmem⟩
      · rw [if_neg hzero]
        exact .inl ⟨⟨_, rfl⟩, hrange, hmem⟩

/-- The registry of a port can be made if its payloads can be read. -/
theorem registryOf_cases {d : Document} (hdocument : h.documentOf = .ok d) (p : Port) :
    (∃ r, h.registryOf p = .ok r) ∧ d.Readable p ∨
      (∃ e, h.registryOf p = .error (.escape e)) ∧ ¬ d.Readable p := by
  rcases hload : Configuration.load.runFrom { h.configuration with trace := #[] } with ⟨r, c⟩
  have hr : r = .ok d := (congrArg Prod.fst hload).symm.trans hdocument
  rw [hr] at hload
  have hregistry : h.registryOf p =
      ((Configuration.addResponses {} (d.responsesOn p)).runFrom c).1 :=
    Configuration.registry_of_load hload p
  rcases Configuration.addResponses_cases (d.responsesOn p) (r := {}) rfl c with
    ⟨r', c', hok, hall⟩ | ⟨e, c', hfail, x, hx, hescape⟩
  · exact .inl ⟨⟨r', by rw [hregistry, hok]⟩, hall⟩
  · refine .inr ⟨⟨e, by rw [hregistry, hfail]⟩, fun hall => ?_⟩
    rcases hall x hx with ⟨payload, hpayload⟩
    injection hescape.symm.trans hpayload

end

end Host

namespace Command

/-- The code that a failure makes the command end with, if it does not leave the failure to
    whoever has called it. -/
def code? : Failure → Option Nat
  | .reported r =>
    if r.kind.isUnder .configuration then some 2
    else if r.kind.isUnder .serverStart then some 1
    else none
  | _ => none

section

variable {faults : List (Port × SystemError)} {h : Host} {make : Port → Registry → Server}
  {p : Port}

/-- Why the first server of a host is refused, and what this makes the command end with. -/
theorem refusal?_spec (hfresh : h.Fresh faults) (hmake : Host.Makes make) {d : Document}
    (hdocument : h.documentOf = .ok d) (p : Port) :
    match h.refusal? make p with
    | none => d.Servable (faults.map Prod.fst) p
    | some f => ¬ d.Servable (faults.map Prod.fst) p ∧
        (code? f = some 1 ∧ d.Proper p ∨ code? f = none ∧ ¬ d.Proper p) := by
  rw [Host.refusal?]
  rcases Host.registryOf_cases hdocument p with ⟨⟨r, hr⟩, hreadable⟩ | ⟨⟨e, he⟩, hunreadable⟩
  · have hfree : h.pool.contains p = false := by
      rw [Pool.contains, Pool.get?, hfresh.pool]
      rfl
    rw [hr]
    dsimp only
    rw [Host.obstacle?, hmake.port, hfree, Bool.and_false, if_neg Bool.false_ne_true]
    rcases hfresh.bound?_cases p with ⟨⟨q, hq⟩, hrange, hmem⟩ | ⟨⟨e, he⟩, hrange, hmem⟩ | ⟨he, hrange⟩
    · rw [hq]
      exact ⟨⟨hreadable, hrange⟩, hmem⟩
    · rw [he]
      exact ⟨fun hservable => hservable.available hmem, .inl ⟨rfl, hreadable, hrange⟩⟩
    · rw [he]
      exact ⟨fun hservable => hrange hservable.range,
        .inr ⟨rfl, fun hproper => hrange hproper.range⟩⟩
  · rw [he]
    exact ⟨fun hservable => hunreadable hservable.readable,
      .inr ⟨rfl, fun hproper => hunreadable hproper.readable⟩⟩

theorem serves_of_accepted (hfresh : h.Fresh faults) (hmake : Host.Makes make) {d : Document}
    (hdocument : h.documentOf = .ok d) {ports : List Port}
    (hall : ∀ p ∈ ports, h.refusal? make p = none) :
    Serves d (faults.map Prod.fst) ports (some 0) := by
  refine .all fun p hp => ?_
  have hspec := refusal?_spec hfresh hmake hdocument p
  rwa [hall p hp] at hspec

theorem serves_of_refused (hfresh : h.Fresh faults) (hmake : Host.Makes make) {d : Document}
    (hdocument : h.documentOf = .ok d) {ports before : List Port} {f : Failure}
    (hfirst : Host.FirstRefused make h ports before f) :
    Serves d (faults.map Prod.fst) ports (code? f) := by
  rcases hfirst with ⟨p, after, heq, hbefore, hp⟩
  have hspec := refusal?_spec hfresh hmake hdocument p
  rw [hp] at hspec
  -- What is refused first is what cannot be served first, as each port is refused on its own account.
  have hfailing : FirstFailing (d.Servable (faults.map Prod.fst)) ports p := by
    refine ⟨before, after, heq, fun q hq => ?_, hspec.1⟩
    have hgood := refusal?_spec hfresh hmake hdocument q
    rwa [hbefore q hq] at hgood
  rcases hspec.2 with ⟨hcode, hproper⟩ | ⟨hcode, himproper⟩
  · rw [hcode]
    exact .unavailable p hfailing hproper
  · rw [hcode]
    exact .improper p hfailing himproper

/-- A cause that is not reported gives no code. -/
theorem code?_unreported {c : Configuration} {f : Failure} (h : c.Unreported f) :
    code? f = none := by
  cases h <;> rfl

/-- Without a document the command ends as a faulty configuration makes it end, or passes on why
    there is none if that is not reported. -/
theorem ends_of_load {c : Configuration} {f : Failure}
    (hload : (Configuration.load.runFrom c).1 = .error f) (mode : Arguments.Mode)
    (unavailable : List Port) : Ends c mode unavailable (code? f) := by
  rcases Configuration.load_cases c with ⟨d, c', hok⟩ | ⟨g, c', hfail, hg⟩
  · rw [hok] at hload
    injection hload
  · rw [hfail] at hload
    injection hload with hgf
    subst hgf
    rcases hg with ⟨r, rfl, hkind⟩ | hunreported
    · have hcode : code? (.reported r) = some 2 := by
        rw [code?, hkind]
        rfl
      rw [hcode]
      refine .unusable (fun d hd => ?_) fun f hf => ?_
      · rw [hfail] at hd
        injection hd
      · -- The failure would be the one that is reported.
        rcases Configuration.load_unreported hf with ⟨c'', hload⟩
        have hreported := (congrArg Prod.fst hload).symm.trans (congrArg Prod.fst hfail)
        injection hreported with hreported
        rw [hreported] at hf
        cases hf
    · rw [code?_unreported hunreported]
      exact .unreported g hunreported

end

end Command

end MockHost
