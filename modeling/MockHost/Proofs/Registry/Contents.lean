import MockHost.Proofs.Registry.Repetitions
import MockHost.Registry

/-!
# What a Registry Holds

A registry is filled with one delivery after another, and keeps no more of that than their order:
for each message the deliveries that were given for it, oldest first and each of them once, and the
messages themselves in the order in which they came up. That is a condition on two lists, the
additions and the entries, which one more addition preserves. So it holds of a registry however it
has been filled.

## Main definitions

* `Registry.Holds`: The entries are those of a list of additions.

## Theorems

* `Registry.lookup_insert`, `Registry.keys_insert`: One delivery that is put in.
* `Registry.holds_empty`, `Registry.Holds.add`: Filling a registry from the beginning.
-/

namespace MockHost

namespace Registry

/-- The registry has what was added to it: the deliveries of a message in the order in which they
    were first added, and the messages in the order in which they first came up. -/
structure Holds (r : Registry) (added : List (Text × Delivery)) : Prop where
  lookup : ∀ key, r.lookup key = ((added.filter fun x => x.1 = key).map Prod.snd).eraseDups
  keys : r.keys = (added.map Prod.fst).eraseDups

section

variable {r : Registry} {added : List (Text × Delivery)}

theorem lookup_insert (key : Text) (d : Delivery) (entries : List (Text × List Delivery))
    (k : Text) : ((insert key d entries).lookup k).getD [] =
      if k = key then (entries.lookup k).getD [] ++ [d] else (entries.lookup k).getD [] := by
  -- On the entries that come before the one of the key, which stay as they are.
  induction entries with
  | nil =>
      by_cases hk : k = key
      · rw [if_pos hk, hk, insert, List.lookup_cons_self]
        rfl
      · rw [if_neg hk, insert, List.lookup_cons, beq_eq_false_iff_ne.mpr hk]
  | cons e rest ih =>
      rcases e with ⟨k', ds⟩
      rw [insert]
      by_cases hkey : k' = key
      · rw [if_pos hkey, List.lookup_cons, List.lookup_cons, hkey]
        by_cases hk : k = key
        · rw [if_pos hk, hk, beq_self_eq_true]
          rfl
        · rw [if_neg hk, beq_eq_false_iff_ne.mpr hk]
      · rw [if_neg hkey, List.lookup_cons, List.lookup_cons]
        by_cases hk : k = k'
        · have hne : k ≠ key := fun h => hkey (hk.symm.trans h)
          rw [if_neg hne, hk, beq_self_eq_true]
        · rw [beq_eq_false_iff_ne.mpr hk]
          exact ih

theorem keys_insert (key : Text) (d : Delivery) (entries : List (Text × List Delivery)) :
    (insert key d entries).map Prod.fst =
      if key ∈ entries.map Prod.fst then entries.map Prod.fst
      else entries.map Prod.fst ++ [key] := by
  induction entries with
  | nil => rfl
  | cons e rest ih =>
      rcases e with ⟨k', ds⟩
      rw [insert, List.map_cons]
      by_cases hkey : k' = key
      · rw [if_pos hkey, if_pos (hkey ▸ List.mem_cons_self), hkey]
        rfl
      · rw [if_neg hkey, List.map_cons, ih]
        by_cases hmem : key ∈ rest.map Prod.fst
        · rw [if_pos hmem, if_pos (List.mem_cons_of_mem _ hmem)]
        · have hnot : key ∉ k' :: rest.map Prod.fst :=
            fun h => (List.mem_cons.mp h).elim (fun h => hkey h.symm) hmem
          rw [if_neg hmem, if_neg hnot]
          rfl

theorem holds_empty : Holds {} [] := ⟨fun _ => rfl, rfl⟩

theorem Holds.mem_lookup (h : r.Holds added) {key : Text} {d : Delivery} :
    d ∈ r.lookup key ↔ (key, d) ∈ added := by
  rw [h.lookup, List.mem_eraseDups, List.mem_map]
  constructor
  · rintro ⟨x, hx, rfl⟩
    rw [List.mem_filter, decide_eq_true_eq] at hx
    exact hx.2 ▸ hx.1
  · exact fun hd => ⟨_, List.mem_filter.mpr ⟨hd, decide_eq_true rfl⟩, rfl⟩

theorem filter_concat (added : List (Text × Delivery)) (key k : Text) (d : Delivery) :
    ((added ++ [(key, d)]).filter fun x => x.1 = k).map Prod.snd =
      if k = key then (added.filter fun x => x.1 = k).map Prod.snd ++ [d]
      else (added.filter fun x => x.1 = k).map Prod.snd := by
  rw [List.filter_append, List.filter_singleton]
  by_cases hk : k = key
  · rw [if_pos hk, hk, decide_eq_true rfl, List.map_append]
    rfl
  · rw [if_neg hk, decide_eq_false (Ne.symm hk)]
    exact congrArg _ (List.append_nil _)

/-- A delivery that the message has already makes no difference. -/
theorem Holds.again (h : r.Holds added) {key : Text} {d : Delivery} (hd : (key, d) ∈ added) :
    r.Holds (added ++ [(key, d)]) where
  lookup k := by
    rw [filter_concat, h.lookup]
    by_cases hk : k = key
    · have hmem : d ∈ (added.filter fun x => x.1 = k).map Prod.snd :=
        List.mem_map_of_mem (List.mem_filter.mpr ⟨hd, decide_eq_true hk.symm⟩)
      rw [if_pos hk, eraseDups_concat, if_pos hmem]
    · rw [if_neg hk]
  keys := by
    rw [List.map_append, List.map_singleton, eraseDups_concat, if_pos (List.mem_map_of_mem hd), h.keys]

/-- A delivery that the message has not comes after those that it has. -/
theorem Holds.insert (h : r.Holds added) {key : Text} {d : Delivery} (hd : (key, d) ∉ added) :
    Holds { r with entries := insert key d r.entries } (added ++ [(key, d)]) where
  lookup k := by
    have hlookup := h.lookup k
    rw [Registry.lookup] at hlookup ⊢
    rw [lookup_insert, filter_concat, hlookup]
    by_cases hk : k = key
    · have hmem : d ∉ (added.filter fun x => x.1 = k).map Prod.snd := by
        rw [← List.mem_eraseDups, ← h.lookup, h.mem_lookup, hk]
        exact hd
      rw [if_pos hk, if_pos hk, eraseDups_concat, if_neg hmem]
    · rw [if_neg hk, if_neg hk]
  keys := by
    have hkeys : r.entries.map Prod.fst = (added.map Prod.fst).eraseDups := h.keys
    rw [List.map_append, List.map_singleton, eraseDups_concat, Registry.keys, keys_insert, hkeys]
    simp only [List.mem_eraseDups]

/-- One more delivery is added to a registry that has not been frozen. -/
theorem Holds.add (h : r.Holds added) (hfree : r.frozen = false) (key : Text) (d : Delivery) :
    ∃ r' logged, r.addLogged key d = .ok (r', logged) ∧ r'.frozen = false ∧
      r'.Holds (added ++ [(key, d)]) := by
  rw [addLogged, Registry.add, if_neg (Bool.eq_false_iff.mp hfree)]
  by_cases hd : (key, d) ∈ added
  · rw [if_pos (List.contains_iff_mem.mpr (h.mem_lookup.mpr hd))]
    exact ⟨r, _, rfl, hfree, h.again hd⟩
  · have hnot : ¬ (r.lookup key).contains d = true := by
      rw [List.contains_iff_mem, h.mem_lookup]
      exact hd
    rw [if_neg hnot]
    exact ⟨_, _, rfl, hfree, h.insert hd⟩

end

end Registry

end MockHost
