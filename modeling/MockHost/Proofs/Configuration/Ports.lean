import MockHost.Configuration
import Mathlib.Data.List.Basic

/-!
# The Ports of a Configuration

A document that has been read names only ports that can be listened on: whatever else
a text may hold, a port outside of the range that a document may name makes the check
of the document fail, however deep it stands. From there on the ports of a document are
in order and each of them comes once, and what the configuration gives for a port is
determined by the document alone, as long as it is not read again.

## Main definitions

* `Document.Valid`: Every port of the document can be listened on.
* `Configuration.Sound`: The document that has been read, if any, is valid.

## Theorems

* `Document.read_valid`: A document that has been read is valid.
* `Document.ports_sorted`, `Document.mem_ports`: The ports of a document.
* `Configuration.load_spec`: What reading the document leaves behind.
* `Configuration.registry_spec`: The registry for a port comes from the document alone.
-/

namespace MockHost

/-! ### Checks that have succeeded -/

namespace Checked

section

variable {α β : Type}

theorem under_ok {s : Step} {c : Checked α} {a : α} (h : under s c = .ok a) : c = .ok a := by
  cases c with
  | ok _ => exact h
  | error _ => injection h

theorem app_ok {f : Checked (α → β)} {c : Checked α} {b : β} (h : app f c = .ok b) :
    ∃ g a, f = .ok g ∧ c = .ok a ∧ b = g a := by
  cases f with
  | error _ =>
      cases c with
      | ok _ => injection h
      | error _ => injection h
  | ok g =>
      cases c with
      | ok a =>
          injection h with h
          exact ⟨g, a, rfl, rfl, h.symm⟩
      | error _ => injection h

theorem required_ok {fields : List (Text × Value)} {name : Text} {check : Value → Checked α}
    {a : α} (h : required fields name check = .ok a) : ∃ v, check v = .ok a := by
  have hfield := under_ok h
  split at hfield
  · exact ⟨_, hfield⟩
  · injection hfield

theorem optional_ok {fields : List (Text × Value)} {name : Text} {default : α}
    {check : Value → Checked α} {a : α} (h : optional fields name default check = .ok a) :
    a = default ∨ ∃ v, check v = .ok a := by
  rw [optional] at h
  split at h
  · exact .inr ⟨_, under_ok h⟩
  · injection h with h
    exact .inl h.symm

/-- What every item is checked for holds of all items. -/
theorem items_ok {P : α → Prop} {check : Value → Checked α}
    (hcheck : ∀ v a, check v = .ok a → P a) {start : Nat} {vs : List Value} {as : List α}
    (h : items check start vs = .ok as) : ∀ a ∈ as, P a := by
  induction vs generalizing start as with
  | nil =>
      injection h with h
      rw [← h]
      exact fun a ha => (List.not_mem_nil ha).elim
  | cons v vs ih =>
      rcases app_ok h with ⟨g, rest, hg, hrest, rfl⟩
      rcases app_ok hg with ⟨_, a, hcons, ha, rfl⟩
      injection hcons with hcons
      rw [← hcons]
      intro x hx
      rcases List.mem_cons.mp hx with rfl | hx
      · exact hcheck v x (under_ok ha)
      · exact ih hrest x hx

theorem list_ok {P : α → Prop} {source : Source} {check : Value → Checked α}
    (hcheck : ∀ v a, check v = .ok a → P a) {v : Value} {as : List α}
    (h : list source check v = .ok as) : ∀ a ∈ as, P a := by
  cases v with
  | list vs => exact items_ok hcheck h
  | _ => injection h

theorem record_ok {source : Source} {model : Text} {check : List (Text × Value) → Checked α}
    {v : Value} {a : α} (h : record source model check v = .ok a) :
    ∃ fields, check fields = .ok a := by
  cases v with
  | record fields => exact ⟨fields, h⟩
  | _ => injection h

end

theorem between_ok {low high : Int} {v : Value} {n : Int} (h : between low high v = .ok n) :
    low ≤ n ∧ n ≤ high := by
  rw [between] at h
  split at h
  · injection h
  · split at h
    · injection h
    · split at h
      · injection h
      · injection h with h
        omega

end Checked

/-! ### The ports of a document -/

theorem ServerDefinition.check_port {source : Source} {v : Value} {s : ServerDefinition}
    (h : ServerDefinition.check source v = .ok s) : 1 ≤ s.port ∧ s.port ≤ 65535 := by
  rcases Checked.record_ok h with ⟨fields, hfields⟩
  rcases Checked.app_ok hfields with ⟨g, incoming, hg, -, rfl⟩
  rcases Checked.app_ok hg with ⟨_, port, hmk, hport, rfl⟩
  injection hmk with hmk
  rw [← hmk]
  rcases Checked.required_ok hport with ⟨v, hv⟩
  exact Checked.between_ok hv

namespace Document

/-- Every port of the document can be listened on. -/
def Valid (d : Document) : Prop := ∀ s ∈ d.servers, 1 ≤ s.port ∧ s.port ≤ 65535

theorem check_valid {source : Source} {v : Value} {d : Document}
    (h : Document.check source v = .ok d) : d.Valid := by
  rcases Checked.record_ok h with ⟨fields, hfields⟩
  rcases Checked.app_ok hfields with ⟨_, servers, hmk, hservers, rfl⟩
  injection hmk with hmk
  rw [← hmk]
  rcases Checked.optional_ok hservers with rfl | ⟨v, hv⟩
  · exact fun s hs => (List.not_mem_nil hs).elim
  · exact Checked.list_ok (fun _ _ => ServerDefinition.check_port) hv

theorem read_valid {t : Text} {d : Document} (h : Document.read t = .ok d) : d.Valid := by
  rw [Document.read, Checked.json] at h
  split at h
  · injection h
  · split at h
    · rename_i v _
      cases hcheck : Document.check .json v with
      | error issues =>
          rw [hcheck] at h
          injection h
      | ok d' =>
          rw [hcheck] at h
          injection h with h
          exact h ▸ check_valid hcheck
    · injection h

/-- Erasing repetitions from a list in order goes on from one number to the next, with those
    before it in reverse. -/
theorem eraseReps_loop {a : Port} {as acc : List Port} (has : (a :: as).Pairwise (· ≤ ·))
    (hacc : (a :: acc).Pairwise (· > ·)) :
    (List.eraseRepsBy.loop (· == ·) a as acc).Pairwise (· < ·) ∧
      ∀ p, p ∈ List.eraseRepsBy.loop (· == ·) a as acc ↔ p ∈ acc ∨ p ∈ a :: as := by
  -- The number in hand is not among those before it yet: it joins them when a larger one comes.
  induction as generalizing a acc with
  | nil =>
      refine ⟨List.pairwise_reverse.mpr hacc, fun p => ?_⟩
      rw [List.eraseRepsBy.loop, List.mem_reverse, List.mem_cons, List.mem_singleton, or_comm]
  | cons b as ih =>
      have hle : a ≤ b := List.rel_of_pairwise_cons has List.mem_cons_self
      have hrest : (b :: as).Pairwise (· ≤ ·) := has.of_cons
      by_cases heq : a = b
      · subst heq
        rw [List.eraseRepsBy.loop, beq_self_eq_true]
        refine (ih hrest hacc).imp_right fun h p => ?_
        rw [h p, List.mem_cons (a := p) (b := a) (l := a :: as)]
        simp only [List.mem_cons, or_self_left]
      · rw [List.eraseRepsBy.loop, beq_eq_false_iff_ne.mpr heq]
        have hlt : b > a := Int.lt_iff_le_and_ne.mpr ⟨hle, heq⟩
        have hacc' : (b :: a :: acc).Pairwise (· > ·) := by
          refine List.pairwise_cons.mpr ⟨fun x hx => ?_, hacc⟩
          rcases List.mem_cons.mp hx with rfl | hx
          · exact hlt
          · exact Int.lt_trans (List.rel_of_pairwise_cons hacc hx) hlt
        refine (ih hrest hacc').imp_right fun h p => ?_
        rw [h p]
        simp only [List.mem_cons, or_assoc, or_left_comm]

theorem ports_spec (d : Document) :
    d.ports.Pairwise (· < ·) ∧ ∀ p, p ∈ d.ports ↔ p ∈ d.servers.map ServerDefinition.port := by
  have hsorted : ((d.servers.map ServerDefinition.port).mergeSort).Pairwise (· ≤ ·) := by
    have htrans : ∀ a b c : Port, decide (a ≤ b) = true → decide (b ≤ c) = true →
        decide (a ≤ c) = true := by
      intro a b c hab hbc
      exact decide_eq_true (Int.le_trans (of_decide_eq_true hab) (of_decide_eq_true hbc))
    have htotal : ∀ a b : Port, (decide (a ≤ b) || decide (b ≤ a)) = true := by
      intro a b
      rw [Bool.or_eq_true, decide_eq_true_eq, decide_eq_true_eq]
      exact Int.le_total a b
    exact (List.pairwise_mergeSort htrans htotal _).imp of_decide_eq_true
  have hmem : ∀ p, p ∈ (d.servers.map ServerDefinition.port).mergeSort ↔
      p ∈ d.servers.map ServerDefinition.port := fun p => List.mem_mergeSort
  rw [ports, List.eraseReps]
  generalize (d.servers.map ServerDefinition.port).mergeSort = l at hsorted hmem
  cases l with
  | nil => exact ⟨List.Pairwise.nil, hmem⟩
  | cons a as =>
      rw [List.eraseRepsBy]
      refine (eraseReps_loop hsorted (List.pairwise_singleton _ a)).imp_right fun h p => ?_
      rw [h p, ← hmem p]
      exact ⟨fun h => h.resolve_left List.not_mem_nil, .inr⟩

/-- The ports are in order, and each of them comes once. -/
theorem ports_sorted (d : Document) : d.ports.Pairwise (· < ·) := d.ports_spec.1

theorem ports_nodup (d : Document) : d.ports.Nodup := d.ports_sorted.imp Int.ne_of_lt

theorem mem_ports (d : Document) (p : Port) :
    p ∈ d.ports ↔ ∃ s ∈ d.servers, s.port = p := (d.ports_spec.2 p).trans List.mem_map

theorem Valid.port {d : Document} (h : d.Valid) {p : Port} (hp : p ∈ d.ports) :
    1 ≤ p ∧ p ≤ 65535 := by
  rcases (d.mem_ports p).mp hp with ⟨s, hs, rfl⟩
  exact h s hs

/-- No port of the document leaves the choice open. -/
theorem Valid.ne_zero {d : Document} (h : d.Valid) {p : Port} (hp : p ∈ d.ports) : p ≠ 0 := by
  rintro rfl
  exact absurd (h.port hp).1 (by decide)

end Document

/-! ### What follows from the document -/

namespace Configuration

/-- The document that has been read, if any, is valid. -/
def Sound (c : Configuration) : Prop := ∀ d, c.document = some d → d.Valid

variable {c c' : Configuration} {d : Document}

theorem readIn_ok (h : readIn.runFrom c = (.ok d, c')) : c'.document = some d ∧ d.Valid := by
  rw [readIn, Act.runFrom_bind_ok (Act.runFrom_get c)] at h
  cases hread : c.readDocument with
  | error r =>
      rw [hread] at h
      injection h with h
      injection h
  | ok d' =>
      rw [hread] at h
      injection h with hd hc'
      injection hd with hd
      subst hd
      refine ⟨hc' ▸ rfl, ?_⟩
      rw [readDocument] at hread
      cases htext : c.readText with
      | error e =>
          rw [htext] at hread
          injection hread
      | ok t =>
          rw [htext] at hread
          simp only [bind, Except.bind] at hread
          split at hread
          · rename_i hd
            injection hread with hread
            exact hread ▸ Document.read_valid hd
          · injection hread

/-- The document that reading gives is kept, and is a valid one. -/
theorem load_spec (hsound : c.Sound) (h : load.runFrom c = (.ok d, c')) :
    c'.document = some d ∧ d.Valid := by
  rw [load, Act.runFrom_bind_ok (Act.runFrom_get c)] at h
  cases hdocument : c.document with
  | some d' =>
      rw [hdocument] at h
      injection h with hd hc'
      injection hd with hd
      rw [← hc', hdocument, hd]
      exact ⟨rfl, hsound d (hdocument.trans (congrArg some hd))⟩
  | none =>
      rw [hdocument] at h
      dsimp only at h
      -- Whatever is done first, the document is read from the file in the end.
      have hread : ∀ {α : Type} {a : Act Configuration α},
          (a >>= fun _ => readIn).runFrom c = (.ok d, c') → c'.document = some d ∧ d.Valid := by
        intro α a ha
        rw [Act.runFrom_bind] at ha
        rcases hrun : a.runFrom c with ⟨_ | x, c₁⟩
        · rw [hrun] at ha
          injection ha with ha
          injection ha
        · rw [hrun] at ha
          exact readIn_ok ha
      split at h
      · injection h with h
        injection h
      · exact readIn_ok h
      · by_cases hinitialise : (!c.initialise) = true
        · rw [if_pos hinitialise] at h
          injection h with h
          injection h
        · rw [if_neg hinitialise] at h
          exact hread h

theorem load_runFrom (h : c.document = some d) : load.runFrom c = (.ok d, c) := by
  rw [load, Act.runFrom_bind_ok (Act.runFrom_get c), h]
  rfl

/-- Filling a registry gives the same in every configuration, and keeps the document. -/
theorem addResponses_spec (l : List (Text × ResponseDefinition)) (r : Registry)
    (c c' : Configuration) :
    ((addResponses r l).runFrom c).1 = ((addResponses r l).runFrom c').1 ∧
      ((addResponses r l).runFrom c).2.document = c.document := by
  -- Only the trace is written to, and nothing is read from it.
  induction l generalizing r c c' with
  | nil => exact ⟨rfl, rfl⟩
  | cons x rest ih =>
      rcases x with ⟨key, response⟩
      rw [addResponses]
      cases Escape.unescape? response.message with
      | error e => exact ⟨rfl, rfl⟩
      | ok payload =>
          dsimp only
          cases r.addLogged key ⟨response.host, response.port, payload⟩ with
          | error e => exact ⟨rfl, rfl⟩
          | ok added =>
              dsimp only
              rw [Act.runFrom_bind_ok (Act.runFrom_modify _ c),
                Act.runFrom_bind_ok (Act.runFrom_modify _ c')]
              exact ih added.1 { c with trace := c.trace ++ added.2 }
                { c' with trace := c'.trace ++ added.2 }

/-- The registry for a port is the same in all configurations with the same document. -/
theorem registry_spec (h : c.document = some d) (port : Port) :
    ((registry port).runFrom c).1 = ((addResponses {} (d.responsesOn port)).runFrom c').1 ∧
      ((registry port).runFrom c).2.document = some d := by
  rw [registry, Act.runFrom_bind_ok (load_runFrom h), ← h]
  exact addResponses_spec (d.responsesOn port) {} c c'

/-- Who asks for a registry first gets the same as who has read the document before. -/
theorem registry_of_load (h : load.runFrom c = (.ok d, c')) (port : Port) :
    ((registry port).runFrom c).1 = ((addResponses {} (d.responsesOn port)).runFrom c').1 := by
  rw [registry, Act.runFrom_bind_ok h]

theorem ports_of_load (h : load.runFrom c = (.ok d, c')) :
    ports.runFrom c = (.ok d.ports, c') :=
  Act.runFrom_bind_ok h _

end Configuration

end MockHost
