import MockHost.Proofs.Registry.Contents

/-!
# A Registry Until It Is Frozen

Deliveries are added to a registry, and it is frozen, in whatever order and however often. Up to
the first time that it is frozen every addition counts, and from then on none does, so that what a
registry holds is known from the calls that were made. There are several ways to look at it: the
deliveries of one message, all messages, everything, whether there is a message and how many there
are. All of them are read off the same entries, and they agree because no message has two entries
and none has an entry without deliveries. Neither has to be kept track of: both are already in
what it means for a registry to hold what was added.

## Main definitions

* `Registry.Operation`, `Registry.operate`, `Registry.operateAll`: The calls that change a registry.
* `Registry.additions`: What has been added when a registry is frozen.
* `Registry.Agrees`: Every way to look at a registry shows the same.

## Theorems

* `Registry.Holds.agrees`: It does, of a registry that holds what was added.
* `Registry.Holds.operate_add`, `Registry.operate_frozen`: One call.
* `Registry.Holds.operateAll`, `Registry.operateAll_frozen`: Any number of calls.
* `Registry.operateAll_holds`: Filling and freezing a registry from the beginning.
-/

namespace MockHost

namespace Registry

/-- A call that is to change a registry. -/
inductive Operation where
  | add (key : Text) (d : Delivery)
  | freeze
  deriving DecidableEq, Repr

/-- Makes a call. Gives what came of it, which is what is logged or an error, and the registry
    after it. -/
def operate (r : Registry) : Operation → Except ErrorReport Trace × Registry
  | .add key d =>
    match r.addLogged key d with
    | .ok (r', logged) => (.ok logged, r')
    | .error e => (.error e, r)
  | .freeze => (.ok #[], r.freeze)

/-- The registry after one call and another, whatever came of each. -/
def operateAll (r : Registry) : List Operation → Registry
  | [] => r
  | o :: rest => operateAll (r.operate o).2 rest

/-- What has been added when a registry is frozen for the first time. -/
def additions : List Operation → List (Text × Delivery)
  | [] => []
  | .add key d :: rest => (key, d) :: additions rest
  | .freeze :: _ => []

/-- Every way to look at a registry shows the same messages and the same deliveries. -/
structure Agrees (r : Registry) : Prop where
  entries : r.entries = r.keys.map fun key => (key, r.lookup key)
  size : r.size = r.keys.length
  contains : ∀ key, r.contains key = true ↔ key ∈ r.keys
  lookup : ∀ key, key ∈ r.keys ↔ r.lookup key ≠ []
  keys_nodup : r.keys.Nodup
  lookup_nodup : ∀ key, (r.lookup key).Nodup

section

variable {r : Registry} {added : List (Text × Delivery)}

/-- What is found for a key is what stands in its entry, if no other entry has that key. -/
theorem lookup_of_mem {key : Text} {ds : List Delivery} (hnodup : r.keys.Nodup)
    (hmem : (key, ds) ∈ r.entries) : r.lookup key = ds := by
  rw [Registry.keys] at hnodup
  rw [Registry.lookup]
  generalize r.entries = entries at hnodup hmem
  induction entries with
  | nil => exact absurd hmem List.not_mem_nil
  | cons e rest ih =>
      rw [List.map_cons, List.nodup_cons] at hnodup
      rcases List.mem_cons.mp hmem with rfl | hrest
      · rw [List.lookup_cons_self, Option.getD_some]
      · have hne : key ≠ e.1 := fun h => hnodup.1 (h ▸ List.mem_map_of_mem hrest)
        rw [List.lookup_cons, beq_eq_false_iff_ne.mpr hne]
        exact ih hnodup.2 hrest

theorem contains_iff (key : Text) : r.contains key = true ↔ key ∈ r.keys := by
  rw [Registry.contains, List.any_eq_true, Registry.keys, List.mem_map]
  simp only [beq_iff_eq]

theorem Holds.mem_keys (h : r.Holds added) {key : Text} :
    key ∈ r.keys ↔ ∃ d, (key, d) ∈ added := by
  rw [h.keys, List.mem_eraseDups, List.mem_map]
  exact ⟨fun ⟨x, hx, hkey⟩ => ⟨x.2, hkey ▸ hx⟩, fun ⟨d, hd⟩ => ⟨_, hd, rfl⟩⟩

theorem Holds.agrees (h : r.Holds added) : r.Agrees where
  entries := by
    have hnodup : r.keys.Nodup := h.keys ▸ nodup_eraseDups _
    rw [Registry.keys, List.map_map]
    refine (List.map_id _).symm.trans (List.map_congr_left fun e he => ?_)
    exact Prod.ext rfl (lookup_of_mem hnodup he).symm
  size := (List.length_map _).symm
  contains := contains_iff
  lookup key := by
    rw [h.mem_keys, ← List.length_pos_iff, List.length_pos_iff_exists_mem]
    exact exists_congr fun d => h.mem_lookup.symm
  keys_nodup := h.keys ▸ nodup_eraseDups _
  lookup_nodup key := h.lookup key ▸ nodup_eraseDups _

/-! ### One call -/

/-- An addition to a registry that is not frozen. -/
theorem Holds.operate_add (h : r.Holds added) (hfree : r.frozen = false) (key : Text)
    (d : Delivery) : ∃ logged r', r.operate (.add key d) = (.ok logged, r') ∧
      r'.frozen = false ∧ r'.Holds (added ++ [(key, d)]) := by
  rcases h.add hfree key d with ⟨r', logged, hadd, hfree', h'⟩
  refine ⟨logged, r', ?_, hfree', h'⟩
  rw [operate, hadd]

/-- An addition to one that is. -/
theorem operate_add_frozen (hfrozen : r.frozen = true) (key : Text) (d : Delivery) :
    r.operate (.add key d) = (.error (frozenReport key), r) := by
  rw [operate, addLogged, Registry.add, if_pos hfrozen]
  rfl

theorem operate_frozen (hfrozen : r.frozen = true) (o : Operation) : (r.operate o).2 = r := by
  cases o with
  | add key d => rw [operate_add_frozen hfrozen]
  | freeze =>
      rw [operate, freeze, ← hfrozen]

theorem Holds.freeze (h : r.Holds added) : r.freeze.Holds added := ⟨h.lookup, h.keys⟩

/-! ### Any number of calls -/

theorem operateAll_frozen (hfrozen : r.frozen = true) (ops : List Operation) :
    r.operateAll ops = r := by
  induction ops with
  | nil => rfl
  | cons o rest ih => rw [Registry.operateAll, operate_frozen hfrozen, ih]

theorem Holds.operateAll (h : r.Holds added) (hfree : r.frozen = false) (ops : List Operation) :
    (r.operateAll ops).Holds (added ++ additions ops) ∧
      ((r.operateAll ops).frozen = true ↔ .freeze ∈ ops) := by
  induction ops generalizing r added with
  | nil =>
      rw [Registry.operateAll, additions, List.append_nil, hfree]
      exact ⟨h, by simp⟩
  | cons o rest ih =>
      rw [Registry.operateAll]
      cases o with
      | add key d =>
          rcases h.operate_add hfree key d with ⟨logged, r', hadd, hfree', h'⟩
          rw [hadd, additions, List.append_cons]
          refine ⟨(ih h' hfree').1, (ih h' hfree').2.trans ?_⟩
          simp
      | freeze =>
          -- Whatever comes now, it finds the registry frozen.
          have hrest : (r.operate .freeze).2.operateAll rest = r.freeze := operateAll_frozen rfl rest
          rw [hrest, additions, List.append_nil]
          exact ⟨h.freeze, iff_of_true rfl List.mem_cons_self⟩

/-- What a registry holds, from the calls that were made since it was empty, how it may be looked
    at, and what comes of adding to it then. -/
theorem operateAll_holds (ops : List Operation) :
    (operateAll {} ops).Holds (additions ops) ∧ (operateAll {} ops).Agrees ∧
      ∀ key d,
        if .freeze ∈ ops then
          (operateAll {} ops).operate (.add key d) =
            (.error (frozenReport key), operateAll {} ops)
        else ∃ logged r', (operateAll {} ops).operate (.add key d) = (.ok logged, r') := by
  rcases holds_empty.operateAll rfl ops with ⟨hholds, hfrozen⟩
  rw [List.nil_append] at hholds
  refine ⟨hholds, hholds.agrees, fun key d => ?_⟩
  by_cases h : .freeze ∈ ops
  · rw [if_pos h]
    exact operate_add_frozen (hfrozen.mpr h) key d
  · rw [if_neg h]
    have hfree : (operateAll {} ops).frozen = false :=
      Bool.eq_false_iff.mpr fun hf => h (hfrozen.mp hf)
    rcases hholds.operate_add hfree key d with ⟨logged, r', hadd, _⟩
    exact ⟨logged, r', hadd⟩

end

end Registry

end MockHost
