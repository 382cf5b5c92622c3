import Mathlib.Data.List.Infix
import MockHost.Text.Basic

/-!
# Cutting Bytes into Messages

What it means to cut a byte string at a terminator. Every message ends with the
terminator and holds it nowhere before; what follows the last message does not
hold it at all. There is one way only to do so, and a single pass over the bytes
finds it: at every byte it is enough to look whether the bytes begun so far end
with the terminator.

The pass can be interrupted anywhere. `split_append` says that it goes on from
the bytes it had begun, which is why it does not matter in what pieces the bytes
arrive.

## Main definitions

* `Framing.IsMessage`: Bytes that end with their only terminator.
* `Framing.IsSplit`: Bytes cut into messages and a remainder.
* `Framing.split`: The pass over the bytes.

## Theorems

* `Framing.IsSplit.unique`: There is one way only to cut.
* `Framing.isSplit_split`: The pass finds it.
* `Framing.split_append`: The pass goes on where it was interrupted.
-/

namespace MockHost

namespace Framing

/-- The bytes end with the terminator, and it occurs in them at no earlier position. -/
structure IsMessage (terminator m : Bytes) : Prop where
  ends : terminator <:+ m
  first : ∀ before after, before ++ terminator ++ after = m → after = []

/-- The bytes are the messages one after another and then the rest, in which no message
    is complete. -/
structure IsSplit (terminator bytes : Bytes) (messages : List Bytes) (rest : Bytes) : Prop where
  whole : messages.flatten ++ rest = bytes
  closed : ∀ m ∈ messages, IsMessage terminator m
  unfinished : ¬ terminator <:+: rest

/-- Of two messages that the same bytes begin with, neither is longer. -/
theorem IsMessage.eq_of_append {terminator m m' : Bytes} (h : IsMessage terminator m)
    (h' : IsMessage terminator m') {x x' : Bytes} (heq : m ++ x = m' ++ x') : m = m' := by
  -- If one were longer, the terminator of the other would stand in it before its end.
  rcases List.append_eq_append_iff.mp heq with ⟨d, hd, -⟩ | ⟨d, hd, -⟩
  · rcases h.ends with ⟨before, hbefore⟩
    have hnil : d = [] := h'.first before d (by rw [hbefore, hd])
    rw [hd, hnil, List.append_nil]
  · rcases h'.ends with ⟨before, hbefore⟩
    have hnil : d = [] := h.first before d (by rw [hbefore, hd])
    rw [hd, hnil, List.append_nil]

/-- A message is never part of a remainder. -/
theorem IsMessage.infix_append {terminator m : Bytes} (h : IsMessage terminator m) (x : Bytes) :
    terminator <:+: m ++ x := by
  rcases h.ends with ⟨before, hbefore⟩
  exact ⟨before, x, by rw [hbefore]⟩

/-- There is one way only to cut bytes at a terminator. -/
theorem IsSplit.unique {terminator bytes : Bytes} {ms ms' : List Bytes} {r r' : Bytes}
    (h : IsSplit terminator bytes ms r) (h' : IsSplit terminator bytes ms' r') :
    ms = ms' ∧ r = r' := by
  induction ms generalizing ms' bytes with
  | nil =>
      cases ms' with
      | nil => exact ⟨rfl, h.whole.trans h'.whole.symm⟩
      | cons m' ms' =>
          -- The remainder of one would begin with a message of the other.
          refine absurd ?_ h.unfinished
          have hr : r = m' ++ (ms'.flatten ++ r') := by
            rw [← List.append_assoc, ← List.flatten_cons]
            exact h.whole.trans h'.whole.symm
          rw [hr]
          exact (h'.closed m' List.mem_cons_self).infix_append _
  | cons m ms ih =>
      have hm := h.closed m List.mem_cons_self
      cases ms' with
      | nil =>
          refine absurd ?_ h'.unfinished
          have hr : r' = m ++ (ms.flatten ++ r) := by
            rw [← List.append_assoc, ← List.flatten_cons]
            exact h'.whole.trans h.whole.symm
          rw [hr]
          exact hm.infix_append _
      | cons m' ms' =>
          have heq : m ++ (ms.flatten ++ r) = m' ++ (ms'.flatten ++ r') := by
            rw [← List.append_assoc, ← List.append_assoc, ← List.flatten_cons,
              ← List.flatten_cons]
            exact h.whole.trans h'.whole.symm
          have hmm : m = m' := hm.eq_of_append (h'.closed m' List.mem_cons_self) heq
          subst hmm
          have htails : ms'.flatten ++ r' = ms.flatten ++ r :=
            (List.append_cancel_left heq).symm
          rcases ih ⟨rfl, fun x hx => h.closed x (List.mem_cons_of_mem m hx), h.unfinished⟩
            ⟨htails, fun x hx => h'.closed x (List.mem_cons_of_mem m hx), h'.unfinished⟩ with
            ⟨hms, hr⟩
          exact ⟨by rw [hms], hr⟩

/-- The messages that bytes make up after those begun, and what is left over. -/
def split (terminator : Bytes) : Bytes → Bytes → List Bytes × Bytes
  | begun, [] => ([], begun)
  | begun, b :: rest =>
    if terminator <:+ begun ++ [b] then
      ((begun ++ [b]) :: (split terminator [] rest).1, (split terminator [] rest).2)
    else split terminator (begun ++ [b]) rest

@[simp] theorem split_nil (terminator begun : Bytes) : split terminator begun [] = ([], begun) := rfl

theorem split_cons_of_suffix {terminator begun : Bytes} {b : UInt8}
    (h : terminator <:+ begun ++ [b]) (rest : Bytes) :
    split terminator begun (b :: rest) =
      ((begun ++ [b]) :: (split terminator [] rest).1, (split terminator [] rest).2) :=
  if_pos h

theorem split_cons_of_not_suffix {terminator begun : Bytes} {b : UInt8}
    (h : ¬ terminator <:+ begun ++ [b]) (rest : Bytes) :
    split terminator begun (b :: rest) = split terminator (begun ++ [b]) rest :=
  if_neg h

/-- Interrupted anywhere, the pass goes on from what it had begun. -/
theorem split_append (terminator begun xs ys : Bytes) :
    split terminator begun (xs ++ ys) =
      ((split terminator begun xs).1 ++ (split terminator (split terminator begun xs).2 ys).1,
        (split terminator (split terminator begun xs).2 ys).2) := by
  induction xs generalizing begun with
  | nil => rfl
  | cons x xs ih =>
      rw [List.cons_append]
      by_cases hends : terminator <:+ begun ++ [x]
      · rw [split_cons_of_suffix hends, split_cons_of_suffix hends, ih]
        rfl
      · rw [split_cons_of_not_suffix hends, split_cons_of_not_suffix hends, ih]

/-- One more byte can complete a terminator only at its end. -/
theorem after_eq_nil_of_not_infix {terminator begun : Bytes} {b : UInt8}
    (h : ¬ terminator <:+: begun) {before after : Bytes}
    (heq : before ++ terminator ++ after = begun ++ [b]) : after = [] := by
  rcases List.eq_nil_or_concat after with hnil | ⟨after', b', hafter⟩
  · exact hnil
  · -- Without its last byte the terminator would have stood in what was begun.
    exfalso
    rw [hafter, List.concat_eq_append, ← List.append_assoc] at heq
    exact h ⟨before, after', (List.append_inj' heq rfl).1⟩

theorem isMessage_of_not_infix {terminator begun : Bytes} {b : UInt8}
    (h : ¬ terminator <:+: begun) (hends : terminator <:+ begun ++ [b]) :
    IsMessage terminator (begun ++ [b]) :=
  ⟨hends, fun _ _ heq => after_eq_nil_of_not_infix h heq⟩

theorem not_infix_append_singleton {terminator begun : Bytes} {b : UInt8}
    (h : ¬ terminator <:+: begun) (hends : ¬ terminator <:+ begun ++ [b]) :
    ¬ terminator <:+: begun ++ [b] := by
  rintro ⟨before, after, heq⟩
  have hnil : after = [] := after_eq_nil_of_not_infix h heq
  rw [hnil, List.append_nil] at heq
  exact hends ⟨before, heq⟩

theorem not_infix_nil {terminator : Bytes} (hne : terminator ≠ []) : ¬ terminator <:+: [] :=
  fun h => hne (List.infix_nil.mp h)

/-- The pass cuts what was begun together with what it reads, if no message was complete
    in what was begun. -/
theorem isSplit_split {terminator : Bytes} (hne : terminator ≠ []) {begun : Bytes}
    (h : ¬ terminator <:+: begun) (bytes : Bytes) :
    IsSplit terminator (begun ++ bytes) (split terminator begun bytes).1
      (split terminator begun bytes).2 := by
  induction bytes generalizing begun with
  | nil => exact ⟨by simp only [split_nil, List.flatten_nil, List.nil_append, List.append_nil],
      fun m hm => absurd hm List.not_mem_nil, h⟩
  | cons b rest ih =>
      by_cases hends : terminator <:+ begun ++ [b]
      · -- A message is complete, and the pass starts again with nothing begun.
        have hrest := ih (not_infix_nil hne)
        rw [split_cons_of_suffix hends]
        refine ⟨?_, ?_, hrest.unfinished⟩
        · rw [List.flatten_cons, List.append_assoc, hrest.whole, List.nil_append,
            List.append_assoc]
          rfl
        · intro m hm
          rcases List.mem_cons.mp hm with hm | hm
          · rw [hm]
            exact isMessage_of_not_infix h hends
          · exact hrest.closed m hm
      · -- The byte joins those begun, and they still hold no terminator.
        rw [split_cons_of_not_suffix hends, List.append_cons]
        exact ih (not_infix_append_singleton h hends)

end Framing

end MockHost
