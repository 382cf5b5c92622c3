import Mathlib.Tactic.SplitIfs
import MockHost.Text.Utf8

/-!
# Cutting Bytes Before They Are Read

Bytes are cut in two and each part is read on its own. That is the same as reading them together
and cutting the text, provided that nothing is under way at the cut which the second part goes on
with. A sequence that is under way asks for a byte between 80 and BF, never for any other one: the
first byte of a sequence may narrow this range, but it does not go beyond it. So it is enough that
the second part does not begin with such a byte.

Whatever is under way at the cut then comes to nothing, once because its bytes are over and once
because a byte comes that it does not ask for. These are two different faults and the pieces do
differ, but both leave a part of the same length, for which one replacement character is shown.

## Main definitions

* `Utf8.Continues`: A byte that goes on with a sequence.
* `Utf8.Begun.Narrow`: A sequence that asks for nothing else.
* `Utf8.decodeFrom`: The text of bytes that are read on from a sequence under way.

## Theorems

* `Utf8.step_narrow`: What is under way after one byte asks for nothing else.
* `Utf8.decodeFrom_cut`: A sequence comes to nothing.
* `Utf8.decodeFrom_append`, `Utf8.decode_append`: The text of two parts.
-/

namespace MockHost

namespace Utf8

/-- A byte that goes on with a sequence, and begins nothing. -/
def Continues (b : UInt8) : Prop := 0x80 ≤ b ∧ b ≤ 0xBF

instance (b : UInt8) : Decidable (Continues b) := inferInstanceAs (Decidable (_ ∧ _))

/-- The next byte of a sequence can only be one that goes on with it. -/
def Begun.Narrow (s : Begun) : Prop := 0x80 ≤ s.low ∧ s.high ≤ 0xBF

/-- The text of bytes that are read on from a sequence under way. -/
def decodeFrom (st : Option Begun) (bs : Bytes) : Text := (piecesFrom st bs).map Piece.shown

section

variable {st : Option Begun} {b : UInt8} {t : Bytes}

theorem Begun.Narrow.continues {s : Begun} (h : s.Narrow) (hlow : s.low ≤ b) (hhigh : b ≤ s.high) :
    Continues b :=
  ⟨UInt8.le_trans h.1 hlow, UInt8.le_trans hhigh h.2⟩

theorem narrow_of_range {taken value owed : Nat} {low high : UInt8} (hlow : 0x80 ≤ low)
    (hhigh : high ≤ 0xBF) : Begun.Narrow ⟨taken, value, owed, low, high⟩ :=
  ⟨hlow, hhigh⟩

theorem first_narrow {s : Begun} (h : first b = .ok (.inr s)) : s.Narrow := by
  rw [first] at h
  -- One case for each length that a first byte can announce, and for each range of the next byte.
  split_ifs at h <;> simp only [Except.ok.injEq, Sum.inr.injEq, reduceCtorEq] at h <;> subst h <;>
    exact narrow_of_range (by decide) (by decide)

theorem settle_narrow {s : Begun} (h : (settle b).2 = some s) : s.Narrow := by
  rw [settle] at h
  split at h
  · injection h
  · rename_i s' hfirst
    injection h with h
    exact h ▸ first_narrow hfirst
  · injection h

/-- What is under way after one byte asks for nothing else. -/
theorem step_narrow {s : Begun} (h : (step st b).2 = some s) : s.Narrow := by
  cases st with
  | none => exact settle_narrow h
  | some begun =>
      rw [step] at h
      split at h
      · split at h
        · injection h
        · injection h with h
          exact h ▸ ⟨UInt8.le_refl _, UInt8.le_refl _⟩
      · exact settle_narrow h

theorem decodeFrom_cons (st : Option Begun) (b : UInt8) (bs : Bytes) :
    decodeFrom st (b :: bs) = (step st b).1.map Piece.shown ++ decodeFrom (step st b).2 bs := by
  rw [decodeFrom, piecesFrom, List.map_append]
  rfl

/-- A byte that does not go on with a sequence is read as if there were none, of which one
    replacement character is left. -/
theorem decodeFrom_cut (hnarrow : ∀ s, st = some s → s.Narrow) (hb : ¬ Continues b) :
    decodeFrom st (b :: t) = decodeFrom st [] ++ decode (b :: t) := by
  cases st with
  | none => rfl
  | some s =>
      have hout : ¬ (s.low ≤ b ∧ b ≤ s.high) := fun h => hb ((hnarrow s rfl).continues h.1 h.2)
      have hstep : step (some s) b =
          (.invalid s.taken .continuation :: (settle b).1, (settle b).2) := by
        rw [step, if_neg hout]
      have hnone : decode (b :: t) = (settle b).1.map Piece.shown ++ decodeFrom (settle b).2 t :=
        decodeFrom_cons none b t
      rw [decodeFrom_cons, hstep, hnone]
      rfl

/-- Two parts are read one after the other, if the second one begins with a byte that does not go
    on with what the first one leaves under way. -/
theorem decodeFrom_append (hnarrow : ∀ s, st = some s → s.Narrow)
    (ht : ∀ b, t.head? = some b → ¬ Continues b) (bs : Bytes) :
    decodeFrom st (bs ++ t) = decodeFrom st bs ++ decode t := by
  induction bs generalizing st with
  | nil =>
      cases t with
      | nil => exact (List.append_nil _).symm
      | cons b t => exact decodeFrom_cut hnarrow (ht b rfl)
  | cons b bs ih =>
      rw [List.cons_append, decodeFrom_cons, decodeFrom_cons, List.append_assoc,
        ih fun s hs => step_narrow hs]

theorem decode_append (ht : ∀ b, t.head? = some b → ¬ Continues b) (bs : Bytes) :
    decode (bs ++ t) = decode bs ++ decode t :=
  decodeFrom_append (fun _ h => by injection h) ht bs

/-- Three bytes of four, and then the rest of a message; and the fourth one, which may not be cut
    off. -/
example : decode ([0x61, 0xF0, 0x9F, 0x98] ++ [0x0A]) = [0x61, replacement, 0x0A] ∧
    decode ([0x61, 0xF0, 0x9F, 0x98] ++ [0x80]) = [0x61, 0x1F600] := by decide

end

end Utf8

end MockHost
