import Mathlib.Data.List.Infix
import MockHost.Expectation

/-!
# Literal Patterns

A pattern without any of the characters that mean something else stands for itself: it is matched
by this one text. With a dot and a star after it, it is matched by all texts that begin with it,
line breaks or not in what follows, since the dot accepts these and the whole of a text counts.

Reading such a pattern is a matter of tokens. As long as there is no backslash a token is one
character, so the place where reading stands is known from what is left, and one token makes one
part. Matching goes one part after another as well. A part for one character leaves no choice, and
the repetition at the end takes all that is left at its first attempt, which is the one that ends
where the text does. So nothing is ever given back.

The least width of a pattern, at which shorter texts are refused without a trial, never exceeds
the length of the literal. It may fall short of it, since widths are not counted without limit,
and then the trial decides.

## Main definitions

* `Pattern.metacharacters`, `Pattern.IsLiteral`: Texts that stand for themselves.
* `Pattern.Reading.before`: Where reading stands, from what is left.
* `Pattern.literally`, `Pattern.anything`: The parts that are read.
* `Expectation.exactly`, `Expectation.beginning`: What such patterns expect.

## Theorems

* `Pattern.Read.sequence_literal`: One part for each character.
* `Pattern.matchSequence_literally`: These parts take the literal or nothing.
* `Pattern.matchSequence_anything`: A dot and a star take all that is left.
* `Pattern.accepts_literal`, `Pattern.accepts_literal_anything`: The texts that match.
* `Expectation.compile_exactly`, `Expectation.compile_beginning`: What is expected.
-/

namespace MockHost

namespace Pattern

/-- The characters that do not stand for themselves. -/
def metacharacters : Text := "\\.^$*+?\x7b\x7d[]|()"

/-- A text in which every character stands for itself. -/
def IsLiteral (w : Text) : Prop := ∀ c ∈ w, c ∉ metacharacters

instance (w : Text) : Decidable (IsLiteral w) := inferInstanceAs (Decidable (∀ c ∈ w, _))

/-- The parts that a literal is read as. -/
def literally (w : Text) : List Node := w.map Node.single

/-- What a dot and a star are read as. -/
def anything : Node := .loop .greedy 0 none [.any]

/-- How a pattern is matched that sets no flags of its own. -/
def usualFlags : Flags := { dotAll := true, unicode := true }

theorem literally_cons (c : CodePoint) (w : Text) :
    literally (c :: w) = .single c :: literally w := rfl

theorem IsLiteral.tail {c : CodePoint} {w : Text} (h : IsLiteral (c :: w)) : IsLiteral w :=
  fun x hx => h x (List.mem_cons_of_mem c hx)

theorem IsLiteral.no_backslash {w : Text} (h : IsLiteral w) : 92 ∉ w :=
  fun hmem => h 92 hmem (by decide)

/-! ### Reading -/

/-- Where reading stands before a text without a backslash, after `n` characters. -/
def Reading.before (n : Nat) (t : Text) : Reading where
  rest := t.tail
  ahead := t.head?.map fun c => [c]
  index := n + (t.take 1).length
  flags := { dotAll := true }
  names := []
  groups := #[none]
  lookbehind := none
  references := []

section

variable {r r' : Reading} {c : CodePoint} {t w : Text}

/-- Without a backslash a token is a character. -/
theorem Reading.advance_plain (h : 92 ∉ r.rest) :
    r.advance = .ok { r with
      rest := r.rest.tail
      ahead := r.rest.head?.map fun c => [c]
      index := r.index + (r.rest.take 1).length } := by
  rcases r with ⟨rest, ahead, index, flags, names, groups, lookbehind, references⟩
  cases rest with
  | nil => rfl
  | cons d rest =>
      have hd : d ≠ 92 := fun hd => h (hd ▸ List.mem_cons_self)
      rw [Reading.advance]
      split
      · rename_i hrest
        injection hrest
      · rename_i hrest
        exact absurd (List.cons.inj hrest).1 hd
      · rename_i hrest
        exact absurd (List.cons.inj hrest).1 hd
      · rename_i hrest
        injection hrest with hd hrest
        rw [← hd, ← hrest]
        rfl

theorem Reading.start_before (ht : 92 ∉ t) :
    Reading.start t { dotAll := true } = .ok (.before 0 t) :=
  Reading.advance_plain (r := ⟨t, none, 0, _, [], #[none], none, []⟩) ht

namespace Read

variable {α β : Type}

theorem run_bind_ok {a : Read α} {x : α} (h : a.run r = .ok (x, r')) (f : α → Read β) :
    (a >>= f).run r = (f x).run r' := by
  rw [StateT.run_bind, h]
  rfl

theorem peek_before (n : Nat) :
    peek.run (.before n (c :: t)) = .ok (some [c], .before n (c :: t)) := rfl

theorem take_before (ht : 92 ∉ t) (n : Nat) :
    take.run (.before n (c :: t)) = .ok (some [c], .before (n + 1) t) := by
  have hget : (get : Read Reading).run (.before n (c :: t)) = .ok (.before n (c :: t), _) := rfl
  have hadvance : (liftM (Reading.before n (c :: t)).advance : Read Reading).run
      (.before n (c :: t)) = .ok (.before (n + 1) t, .before n (c :: t)) := by
    rw [Reading.advance_plain (r := .before n (c :: t)) ht]
    rfl
  rw [take, run_bind_ok hget, run_bind_ok hadvance]
  rfl

/-- A character that stands for itself is a part. -/
theorem sequence_single (hc : c ∉ metacharacters) (ht : 92 ∉ t) (fuel n : Nat)
    (done : List Node) :
    (sequence false true (fuel + 1) done).run (.before n (c :: t)) =
      (sequence false true fuel (.single c :: done)).run (.before (n + 1) t) := by
  have hne : ∀ x ∈ metacharacters, [c] ≠ [x] := fun x hx h =>
    hc (List.singleton_inj.mp h ▸ hx)
  rw [sequence, run_bind_ok (peek_before n)]
  split
  · rename_i h
    injection h
  · rename_i h
    exact absurd (Option.some.inj h) (hne 124 (by decide))
  · rename_i h
    exact absurd (Option.some.inj h) (hne 41 (by decide))
  · rename_i h
    injection h with h
    subst h
    rw [run_bind_ok (take_before ht n)]
    -- None of the tokens that mean something else.
    have hquantifier : ¬ ([c] = [42] ∨ [c] = [43] ∨ [c] = [63] ∨ [c] = [123]) := by
      simp only [not_or]
      exact ⟨hne 42 (by decide), hne 43 (by decide), hne 63 (by decide), hne 123 (by decide)⟩
    simp only [Bool.false_and, Bool.false_eq_true, if_false]
    split
    · rename_i h
      injection h with _ h
      injection h
    · rename_i h
      exact absurd h (hne 91 (by decide))
    · rename_i h
      exact absurd h (hne 46 (by decide))
    · rename_i h
      exact absurd h (hne 94 (by decide))
    · rename_i h
      exact absurd h (hne 36 (by decide))
    · rename_i h
      exact absurd h (hne 40 (by decide))
    · rw [if_neg hquantifier]
      rfl

theorem sequence_any (ht : 92 ∉ t) (fuel n : Nat) (done : List Node) :
    (sequence false true (fuel + 1) done).run (.before n (46 :: t)) =
      (sequence false true fuel (.any :: done)).run (.before (n + 1) t) := by
  rw [sequence, run_bind_ok (peek_before n)]
  exact run_bind_ok (take_before ht n) _

/-- A star at the end repeats the part before it. -/
theorem sequence_star (fuel n : Nat) (done : List Node) :
    (sequence false true (fuel + 1) (.any :: done)).run (.before n [42]) =
      (sequence false true fuel (.loop .greedy 0 none [.any] :: done)).run (.before (n + 1) []) := by
  rw [sequence]
  rfl

theorem sequence_nil (fuel n : Nat) (done : List Node) :
    (sequence false true fuel done).run (.before n []) =
      .ok (done.reverse.flatMap Node.unwrapped, .before n []) := by
  cases fuel with
  | zero =>
      rw [sequence]
      rfl
  | succ fuel =>
      rw [sequence]
      rfl

/-- A literal is read as one part for each character, with any text after it. -/
theorem sequence_literal (hw : IsLiteral w) (ht : 92 ∉ t) (fuel n : Nat) (done : List Node) :
    (sequence false true (w.length + fuel) done).run (.before n (w ++ t)) =
      (sequence false true fuel ((literally w).reverse ++ done)).run (.before (n + w.length) t) := by
  induction w generalizing n done with
  | nil =>
      rw [List.length_nil, Nat.zero_add]
      rfl
  | cons c w ih =>
      have hplain : 92 ∉ w ++ t := List.not_mem_append hw.tail.no_backslash ht
      rw [List.length_cons, Nat.add_right_comm, List.cons_append,
        sequence_single (hw c List.mem_cons_self) hplain, ih hw.tail, literally_cons,
        List.reverse_cons, List.append_assoc, Nat.add_assoc, Nat.add_comm 1]
      rfl

end Read

/-- A pattern that is read as one sequence, to its end. -/
theorem compile_of_sequence {nodes : List Node} {n : Nat} (ht : 92 ∉ t)
    (hnodes : (Read.sequence false true (3 * t.length + 3) []).run (.before 0 t) =
      .ok (nodes, .before n []))
    (hfault : sequenceFault? false #[none] nodes = none) :
    compile t = .ok ⟨nodes, usualFlags, #[none]⟩ := by
  have hoptions : (Read.options false false (3 * t.length + 4) true []).run (.before 0 t) =
      .ok (nodes, .before n []) := by
    rw [Read.options, Read.run_bind_ok hnodes]
    rfl
  have hparse : parse t = .ok ⟨nodes, usualFlags, #[none]⟩ := by
    rw [parse, Reading.start_before ht]
    simp only [bind, Except.bind]
    rw [hoptions]
    rfl
  rw [compile, hparse]
  have htemplate : usualFlags.template = false := rfl
  simp only [bind, Except.bind]
  rw [htemplate, hfault]
  rfl

theorem unwrapped_literally (w : Text) : (literally w).flatMap Node.unwrapped = literally w := by
  induction w with
  | nil => rfl
  | cons c w ih => rw [literally_cons, List.flatMap_cons, ih]; rfl

theorem sequenceFault?_literally (groups : Array (Option Width)) (w : Text) (ns : List Node) :
    sequenceFault? false groups (literally w ++ ns) = sequenceFault? false groups ns := by
  induction w with
  | nil => rfl
  | cons c w ih =>
      have hnone : (Node.single c).fault? false groups = none := rfl
      rw [literally_cons, List.cons_append, sequenceFault?, ih, hnone, Option.none_or]

theorem compile_literal (hw : IsLiteral w) :
    compile w = .ok ⟨literally w, usualFlags, #[none]⟩ := by
  refine compile_of_sequence (n := w.length) hw.no_backslash ?_ ?_
  · have hread := Read.sequence_literal hw List.not_mem_nil (2 * w.length + 3) 0 []
    rw [List.append_nil, Read.sequence_nil, List.append_nil, List.reverse_reverse,
      unwrapped_literally, Nat.zero_add] at hread
    rw [← hread]
    congr 2
    omega
  · rw [← List.append_nil (literally w), sequenceFault?_literally]
    rfl

theorem compile_literal_anything (hw : IsLiteral w) :
    compile (w ++ ".*") = .ok ⟨literally w ++ [anything], usualFlags, #[none]⟩ := by
  have hplain : 92 ∉ w ++ [46, 42] := List.not_mem_append hw.no_backslash (by decide)
  refine compile_of_sequence (n := w.length + 2) hplain ?_ ?_
  · have hread := Read.sequence_literal hw (t := [46, 42]) (by decide) (2 * w.length + 9) 0 []
    rw [Read.sequence_any (by decide), Read.sequence_star, Read.sequence_nil, List.append_nil,
      List.reverse_cons, List.reverse_reverse, List.flatMap_append, unwrapped_literally,
      Nat.zero_add] at hread
    refine Eq.trans ?_ hread
    congr 2
    rw [List.length_append]
    change 3 * (w.length + 2) + 3 = _
    omega
  · rw [sequenceFault?_literally]
    rfl

end

/-! ### Matching -/

section

variable {groups : Array (Option Width)} {flags : Flags} {t w : Text} {inLoop : Bool}

/-- The parts of a literal take the literal, or nothing. -/
theorem matchSequence_literally (hexact : flags.folding = .exact) (ns : List Node) (rest : Rest)
    (p : Place) :
    (matchSequence t.toArray groups flags inLoop (literally w ++ ns) rest p).matched = true ↔
      w <+: t.drop p.index ∧ (matchSequence t.toArray groups flags inLoop ns rest
        { p with index := p.index + w.length }).matched = true := by
  induction w generalizing p with
  | nil => exact (and_iff_right List.nil_prefix).symm
  | cons c w ih =>
      have haccepts : (Node.single c).accepts? flags = some fun d => d == c := by
        rw [Node.accepts?, hexact]
        rfl
      rw [literally_cons, List.cons_append, matchSequence, Node.matchThen, matchOne, haccepts,
        List.getElem?_toArray]
      cases hget : t[p.index]? with
      | none =>
          rw [List.drop_eq_nil_of_le (List.getElem?_eq_none_iff.mp hget)]
          exact iff_of_false Bool.false_ne_true fun h => absurd (List.prefix_nil.mp h.1) (by simp)
      | some d =>
          rcases List.getElem?_eq_some_iff.mp hget with ⟨hlt, hd⟩
          rw [List.drop_eq_getElem_cons hlt, hd, List.cons_prefix_cons]
          by_cases hc : d = c
          · simp only [hc, beq_self_eq_true, if_true, true_and]
            rw [ih, List.length_cons, Nat.add_right_comm, Nat.add_assoc]
          · simp only [beq_eq_false_iff_ne.mpr hc, Bool.false_eq_true, if_false]
            exact iff_of_false Bool.false_ne_true fun h => hc h.1.1.symm

theorem runLength_all {input : Array CodePoint} {accepts : CodePoint → Bool}
    (hall : ∀ c, accepts c = true) {n i : Nat} (h : i + n ≤ input.size) :
    runLength input accepts n i = n := by
  induction n generalizing i with
  | zero => rfl
  | succ n ih =>
      have hlt : i < input.size := by omega
      rw [runLength, Array.getElem?_eq_getElem hlt]
      dsimp only
      rw [if_pos (hall _), ih (by omega)]

/-- The first attempt of a repetition is the longest, and it counts if it succeeds. -/
theorem greedyRun_first {least extra : Nat} {rest : Rest} {p q : Place}
    (h : (rest { q with index := p.index + least + extra }).matched = true) :
    (greedyRun inLoop least rest p extra q).matched = true := by
  cases extra with
  | zero =>
      rw [Nat.add_zero] at h
      rw [greedyRun, if_pos h]
      exact h
  | succ extra =>
      rw [← Nat.add_assoc] at h
      rw [greedyRun, if_pos h]
      exact h

/-- What is left can be taken as a whole. -/
theorem matchSequence_anything (hdot : flags.dotAll = true) {rest : Rest} {p : Place}
    (hindex : p.index ≤ t.length) (hrest : ∀ q : Place, q.index = t.length → (rest q).matched = true) :
    (matchSequence t.toArray groups flags inLoop [anything] rest p).matched = true := by
  have hsimple : simple? flags [.any] = some fun _ => true := by
    rw [simple?, simpleNode?, Node.accepts?, hdot]
    · rfl
    · exact fun _ _ _ h => by injection h
  have hlength : runLength t.toArray (fun _ => true) (t.length - p.index) p.index =
      t.length - p.index :=
    runLength_all (fun _ => rfl) (by rw [List.size_toArray]; omega)
  rw [matchSequence, anything, Node.matchThen, hsimple]
  dsimp only
  rw [matchRun]
  simp only [List.size_toArray, Option.getD_none, Nat.min_self, hlength, Nat.not_lt_zero, if_false,
    Nat.sub_zero]
  refine greedyRun_first (hrest _ ?_)
  change p.index + 0 + (t.length - p.index) = t.length
  omega

/-- A literal is never counted as longer than it is. -/
theorem least_literally (ns : List Node) :
    (sequenceWidth groups (literally w ++ ns)).least ≤
      w.length + (sequenceWidth groups ns).least := by
  induction w with
  | nil => exact (Nat.zero_add _).ge
  | cons c w ih =>
      rw [literally_cons, List.cons_append, sequenceWidth, List.length_cons, Nat.add_right_comm]
      have hone : (Node.single c).width groups = .one := rfl
      rw [hone]
      refine (Nat.min_le_left _ _).trans ?_
      change 1 + _ ≤ _
      omega

end

section

variable {w t : Text}

/-- Where matching ends: the whole of a text counts. -/
def atEnd (t : Text) : Rest := fun q => if q.index = t.length then done q else failed q

theorem atEnd_matched (t : Text) (q : Place) : (atEnd t q).matched = true ↔ q.index = t.length := by
  rw [atEnd]
  by_cases h : q.index = t.length
  · rw [if_pos h]
    exact iff_of_true rfl h
  · rw [if_neg h]
    exact iff_of_false Bool.false_ne_true h

/-- A literal is at the start of a text, and what comes after it matches the rest. -/
theorem accepts_literally {ns : List Node} (hns : (sequenceWidth #[none] ns).least = 0) :
    (Pattern.mk (literally w ++ ns) usualFlags #[none]).accepts t = true ↔
      w <+: t ∧ (matchSequence t.toArray #[none] usualFlags false ns (atEnd t)
        ⟨w.length, ⟨#[none, none], 0⟩⟩).matched = true := by
  have hleast : (sequenceWidth #[none] (literally w ++ ns)).least ≤
      w.length + (sequenceWidth #[none] ns).least := least_literally ns
  have hmatch : (matchSequence t.toArray #[none] usualFlags false (literally w ++ ns) (atEnd t)
      ⟨0, ⟨#[none, none], 0⟩⟩).matched = true ↔ _ := matchSequence_literally rfl ns (atEnd t) _
  rw [accepts]
  simp only [List.size_toArray]
  by_cases hwidth : t.length < (sequenceWidth #[none] (literally w ++ ns)).least
  · rw [if_pos hwidth]
    refine iff_of_false Bool.false_ne_true fun h => ?_
    have hlength := h.1.length_le
    omega
  · rw [if_neg hwidth]
    dsimp only at hmatch
    rw [List.drop_zero, Nat.zero_add] at hmatch
    exact hmatch

theorem accepts_literal :
    (Pattern.mk (literally w) usualFlags #[none]).accepts t = true ↔ t = w := by
  rw [← List.append_nil (literally w), accepts_literally rfl, matchSequence, atEnd_matched]
  exact ⟨fun h => (h.1.eq_of_length h.2).symm, fun h => h ▸ ⟨List.prefix_rfl, rfl⟩⟩

theorem accepts_literal_anything :
    (Pattern.mk (literally w ++ [anything]) usualFlags #[none]).accepts t = true ↔ w <+: t := by
  rw [accepts_literally (by decide)]
  refine and_iff_left_of_imp fun h => ?_
  exact matchSequence_anything rfl h.length_le fun q hq => (atEnd_matched t q).mpr hq

end

end Pattern

namespace Expectation

/-- What is expected of messages that are a literal. -/
def exactly (w : Text) : Expectation := ⟨w, Pattern.literally w, Pattern.usualFlags, #[none]⟩

/-- What is expected of messages that begin with one. -/
def beginning (w : Text) : Expectation :=
  ⟨w ++ ".*", Pattern.literally w ++ [Pattern.anything], Pattern.usualFlags, #[none]⟩

variable {w : Text}

theorem compile_exactly (hw : Pattern.IsLiteral w) : compile w = .ok (exactly w) := by
  rw [compile, Pattern.compile_literal hw]
  rfl

theorem compile_beginning (hw : Pattern.IsLiteral w) : compile (w ++ ".*") = .ok (beginning w) := by
  rw [compile, Pattern.compile_literal_anything hw]
  rfl

theorem accepts_exactly (s : MessageStream) : (exactly w).accepts s = true ↔ s.text = w :=
  Pattern.accepts_literal

theorem accepts_beginning (s : MessageStream) : (beginning w).accepts s = true ↔ w <+: s.text :=
  Pattern.accepts_literal_anything

end Expectation

end MockHost
