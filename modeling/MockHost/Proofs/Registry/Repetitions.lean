import Mathlib.Data.List.Basic
import Mathlib.Data.List.Induction
import Mathlib.Data.List.Nodup

/-!
# Lists Without Repetitions

Of a list only the first appearances are kept. Lists that agree in these may stand for each other
wherever repetitions are going to be dropped anyhow: before or after others, and part by part.

## Theorems

* `eraseDups_concat`: What comes last is dropped if it has come before.
* `nodup_eraseDups`: Nothing is left twice.
* `filter_eraseDups`: Choosing and dropping repetitions, in either order.
* `eraseDups_append_congr`, `eraseDups_flatMap_congr`: Parts with the same first appearances.
* `eraseDups_map_const`: The same thing any number of times.
-/

namespace MockHost

section

variable {α β : Type} [BEq α] [LawfulBEq α]

/-- What comes last is dropped if it has come before. -/
theorem eraseDups_concat (l : List α) (a : α) :
    (l ++ [a]).eraseDups = if a ∈ l then l.eraseDups else l.eraseDups ++ [a] := by
  rw [List.eraseDups_append, List.removeAll, List.filter_singleton]
  by_cases ha : a ∈ l
  · rw [if_pos ha, List.elem_eq_true_of_mem ha]
    exact List.append_nil _
  · have hnot : List.elem a l = false := Bool.eq_false_iff.mpr fun h => ha (List.mem_of_elem_eq_true h)
    rw [if_neg ha, hnot]
    rfl

theorem nodup_eraseDups (l : List α) : l.eraseDups.Nodup := by
  induction l using List.reverseRecOn with
  | nil => exact List.nodup_nil
  | append_singleton l a ih =>
      rw [eraseDups_concat]
      by_cases ha : a ∈ l
      · rw [if_pos ha]
        exact ih
      · rw [if_neg ha, ← List.concat_eq_append]
        exact List.Nodup.concat (fun h => ha (List.mem_eraseDups.mp h)) ih

theorem filter_eraseDups (p : α → Bool) (l : List α) :
    l.eraseDups.filter p = (l.filter p).eraseDups := by
  -- From the end of the list, since what comes last is what may have come before.
  induction l using List.reverseRecOn with
  | nil => rfl
  | append_singleton l a ih =>
      rw [eraseDups_concat, List.filter_append, List.filter_singleton]
      cases hp : p a with
      | false =>
          rw [Bool.cond_false, List.append_nil, ← ih]
          by_cases ha : a ∈ l
          · rw [if_pos ha]
          · rw [if_neg ha, List.filter_append, List.filter_singleton, hp, Bool.cond_false,
              List.append_nil]
      | true =>
          rw [Bool.cond_true, eraseDups_concat, ← ih]
          by_cases ha : a ∈ l
          · rw [if_pos ha, if_pos (List.mem_filter.mpr ⟨ha, hp⟩)]
          · have hnot : a ∉ l.filter p := fun h => ha (List.mem_filter.mp h).1
            rw [if_neg ha, if_neg hnot, List.filter_append, List.filter_singleton, hp,
              Bool.cond_true]

/-- Whatever of two parts has come before can be left out of each of them first. -/
theorem eraseDups_append_congr {as as' bs bs' : List α} (ha : as.eraseDups = as'.eraseDups)
    (hb : bs.eraseDups = bs'.eraseDups) : (as ++ bs).eraseDups = (as' ++ bs').eraseDups := by
  have hmem : ∀ x, x ∈ as ↔ x ∈ as' := fun x => by
    rw [← List.mem_eraseDups, ha, List.mem_eraseDups]
  -- What is left out of the second part depends on what is in the first, not on how often.
  have hcongr : bs'.removeAll as = bs'.removeAll as' :=
    List.filter_congr fun x _ => by rw [Bool.eq_iff_iff]; simp [hmem]
  rw [List.eraseDups_append, List.eraseDups_append, ha, ← hcongr]
  rw [List.removeAll, List.removeAll, ← filter_eraseDups, ← filter_eraseDups, hb]

theorem eraseDups_flatMap_congr {f g : β → List α} {l : List β}
    (h : ∀ b ∈ l, (f b).eraseDups = (g b).eraseDups) :
    (l.flatMap f).eraseDups = (l.flatMap g).eraseDups := by
  induction l with
  | nil => rfl
  | cons b l ih =>
      rw [List.flatMap_cons, List.flatMap_cons]
      exact eraseDups_append_congr (h b List.mem_cons_self)
        (ih fun x hx => h x (List.mem_cons_of_mem b hx))

/-- The same thing any number of times is there once. -/
theorem eraseDups_map_const (a : α) (l : List β) :
    (l.map fun _ => a).eraseDups = if l.isEmpty then [] else [a] := by
  induction l using List.reverseRecOn with
  | nil => rfl
  | append_singleton l b ih =>
      rw [List.map_append, List.map_singleton, eraseDups_concat, ih]
      cases l with
      | nil => rfl
      | cons x l => exact if_pos List.mem_cons_self

end

end MockHost
