import MockHost.Proofs.Text.Escape

/-!
# Writing a Payload

Any text can be had as a payload: it is written with each of its backslashes twice. Two
backslashes are an escape that stands for one of them, whatever comes next, so the reading is in
step again after every pair, and all that it meets in between are characters that stand for
themselves. That the wide ones among them are replaced by escapes does no harm, since a backslash
that could meet them has always been used up by the one before it.

What is written in this way may stand before any other payload, and the two are read apart. This
is more than is needed for a text alone, but it is what carries the induction.

## Main definitions

* `Escape.doubled`: A text with every backslash written twice.
* `Escape.Piece.mark`: The piece that a character comes to be.

## Theorems

* `Escape.pieces_doubled_append`: Each character of the text is a piece.
* `Escape.unescape_doubled_append`: The text is read back, and then what comes after it.
* `Escape.unescape_doubled`: Every text is read back.
-/

namespace MockHost

namespace Escape

/-- A text with every backslash written twice. -/
def doubled (t : Text) : Text := t.replaceAll [92] [92, 92]

/-- The piece that a character of a text comes to be. -/
def Piece.mark (c : CodePoint) : Piece := if c = 92 then .escape [92] else .point c

section

variable {c : CodePoint} {t u : Text}

theorem doubled_backslash (t : Text) : doubled (92 :: t) = 92 :: 92 :: doubled t := rfl

theorem doubled_other (hc : c ≠ 92) (t : Text) : doubled (c :: t) = c :: doubled t := by
  have hprefix : ¬ List.isPrefixOf [92] (c :: t) = true := by
    rw [List.isPrefixOf, Bool.and_eq_true, beq_iff_eq]
    exact fun h => hc h.1.symm
  rw [doubled, Text.replaceAll, Text.replaceAfter, if_neg hprefix]
  rfl

/-- A text without backslashes is written as it stands. -/
theorem doubled_eq_self (h : 92 ∉ t) : doubled t = t := by
  induction t with
  | nil => rfl
  | cons c t ih =>
      rw [List.mem_cons, not_or] at h
      rw [doubled_other (Ne.symm h.1), ih h.2]

/-- No character is written that the text does not hold. -/
theorem mem_of_mem_doubled (h : c ∈ doubled t) : c ∈ t := by
  induction t with
  | nil => exact h
  | cons d t ih =>
      by_cases hd : d = 92
      · rw [hd, doubled_backslash, List.mem_cons, List.mem_cons] at h
        rw [hd, List.mem_cons]
        exact h.elim .inl (Or.imp_right ih)
      · rw [doubled_other hd, List.mem_cons] at h
        exact List.mem_cons.mpr (h.imp_right ih)

theorem pieces_doubled_append (t u : Text) :
    pieces (doubled t ++ u) = t.map Piece.mark ++ pieces u := by
  induction t with
  | nil => rfl
  | cons c t ih =>
      rw [List.map_cons, List.cons_append, ← ih]
      by_cases hc : c = 92
      · -- The two backslashes are used up, and the reading goes on behind them.
        have hafter : after (92 :: (doubled t ++ u)) = .ok (.escape [92], 1) := rfl
        rw [hc, doubled_backslash, List.cons_append, List.cons_append, pieces_of_after hafter,
          List.drop_one, List.tail_cons]
        rfl
      · rw [doubled_other hc, List.cons_append, pieces_point hc, Piece.mark, if_neg hc]

/-- The pieces of a text that is written in this way are read as its characters. -/
theorem joined_marks (t : Text) (ps : List Piece) :
    joined Piece.got (t.map Piece.mark ++ ps) = (t ++ ·) <$> joined Piece.got ps := by
  induction t with
  | nil => cases h : joined Piece.got ps <;> rw [List.map_nil, List.nil_append, h] <;> rfl
  | cons c t ih =>
      have hmark : (Piece.mark c).got = .ok [c] := by
        rw [Piece.mark]
        split_ifs with hc
        · rw [hc]
          rfl
        · rfl
      rw [List.map_cons, List.cons_append, joined_ok hmark, ih]
      cases joined Piece.got ps <;> rfl

/-- A text that is written in this way is read back, and then what comes after it. -/
theorem unescape_doubled_append (ht : ∀ c ∈ t, c ≤ CodePoint.last)
    (hu : ∀ c ∈ u, c ≤ CodePoint.last) (hnames : .named ∉ pieces u) :
    (unescape? (doubled t ++ u)).mapError EscapeError.fault =
      (t ++ ·) <$> (unescape? u).mapError EscapeError.fault := by
  have hlast : ∀ c ∈ doubled t ++ u, c ≤ CodePoint.last := fun c hc =>
    (List.mem_append.mp hc).elim (fun hc => ht c (mem_of_mem_doubled hc)) (hu c)
  have hpieces := pieces_doubled_append t u
  have hnone : .named ∉ pieces (doubled t ++ u) := by
    rw [hpieces, List.mem_append, not_or]
    refine ⟨fun hmem => ?_, hnames⟩
    rcases List.mem_map.mp hmem with ⟨c, -, hc⟩
    rw [Piece.mark] at hc
    split_ifs at hc
  rw [unescape_joined hlast hnone, unescape_joined hu hnames, hpieces, joined_marks]

end

/-- Every text is read back if each of its backslashes is written twice. A text that has none is a
    payload as it stands. -/
theorem unescape_doubled {t : Text} (hlast : ∀ c ∈ t, c ≤ CodePoint.last) :
    unescape? (doubled t) = .ok t ∧ (92 ∉ t → unescape? t = .ok t) := by
  have hnil : ∀ c ∈ ([] : Text), c ≤ CodePoint.last := fun c hc => absurd hc List.not_mem_nil
  have hread : unescape? (doubled t) = .ok t := by
    have happend := unescape_doubled_append hlast hnil List.not_mem_nil
    rw [List.append_nil] at happend
    cases hdoubled : unescape? (doubled t) with
    | error e =>
        rw [hdoubled] at happend
        injection happend
    | ok v =>
        rw [hdoubled] at happend
        injection happend with happend
        rw [happend]
        exact congrArg Except.ok (List.append_nil t)
  refine ⟨hread, fun hback => ?_⟩
  rwa [doubled_eq_self hback] at hread

/-- Backslashes one and two at a time, the second pair before a wide character, a letter that begins
    escapes, a control, a character of one byte, one beyond the first sixteen bits, and half of a
    pair of units. -/
theorem unescape_doubled_mixed :
    let t : Text := [92, 117, 92, 92, 0x20AC, 0, 0xE9, 0x1F600, 92, 78, 0xD800, 92]
    (∀ c ∈ t, c ≤ CodePoint.last) ∧
      doubled t =
        [92, 92, 117, 92, 92, 92, 92, 0x20AC, 0, 0xE9, 0x1F600, 92, 92, 78, 0xD800, 92, 92] ∧
      unescape? (doubled t) = .ok t := by
  intro t
  have hlast : ∀ c ∈ t, c ≤ CodePoint.last := by decide
  exact ⟨hlast, rfl, (unescape_doubled hlast).1⟩

end Escape

end MockHost
