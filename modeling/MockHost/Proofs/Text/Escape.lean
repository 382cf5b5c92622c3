import MockHost.Proofs.Text.Pieces

/-!
# What an Escape Stands For

The reading that a payload gets is not the plain one. It goes over single bytes, in which the
characters beyond the first 256 have been replaced by escapes of their own, and these may
meet a backslash that stands before them.

Over the bytes it is the plain reading again, so there are two texts to compare. The pieces
of a text with its wide characters replaced are those of the text itself, each wide character
being an escape now, with one exception: a wide character that was kept after a backslash.
There the two backslashes come to be an escape, and what is left are the digits.

## Main definitions

* `Escape.narrowed`: A text with its wide characters replaced by escapes.
* `Escape.Piece.got`: What a piece is read as.

## Theorems

* `Escape.pieces_narrowed`: The pieces of a text with its wide characters replaced.
* `Escape.unescape_reads`: How a payload is read, and when that is the plain reading.
* `Escape.unescape_not_plain`: A wide character after a backslash is not kept.
-/

namespace MockHost

namespace Escape

/-! ### Wide characters -/

/-- A character as it stands after the backslash of its own escape, if it needs one. -/
def written (c : CodePoint) : Text :=
  if c < 256 then [c] else if c ≤ 0xFFFF then 117 :: Text.hex 4 c else 85 :: Text.hex 8 c

/-- A character, or the escape that replaces it. -/
def narrowedPoint (c : CodePoint) : Text := if c < 256 then [c] else 92 :: written c

/-- A text with its wide characters replaced by escapes. -/
def narrowed (t : Text) : Text := t.flatMap narrowedPoint

/-- What becomes of a piece when wide characters are replaced. -/
def Piece.narrowed : Piece → List Piece
  | .point c => if c < 256 then [.point c] else [.escape [c]]
  | .kept c => if c < 256 then [.kept c] else .escape [92] :: (written c).map .point
  | p => [p]

/-- What a piece is read as. It is what the piece stands for, unless it ends with a wide
    character. -/
def Piece.got : Piece → Except EscapeFault Text
  | .kept c => .ok (92 :: written c)
  | p => p.text

theorem narrowed_cons (c : CodePoint) (t : Text) :
    narrowed (c :: t) = narrowedPoint c ++ narrowed t :=
  List.flatMap_cons

theorem narrowed_narrow {c : CodePoint} (h : c < 256) (t : Text) :
    narrowed (c :: t) = c :: narrowed t := by
  rw [narrowed_cons, narrowedPoint, if_pos h]
  rfl

theorem narrowed_wide {c : CodePoint} (h : ¬ c < 256) (t : Text) :
    narrowed (c :: t) = 92 :: (written c ++ narrowed t) := by
  rw [narrowed_cons, narrowedPoint, if_neg h]
  rfl

theorem isHexDigit_iff {c : Nat} :
    isHexDigit c = true ↔ (48 ≤ c ∧ c ≤ 57) ∨ (97 ≤ c ∧ c ≤ 102) ∨ (65 ≤ c ∧ c ≤ 70) := by
  unfold isHexDigit Text.hexDigit?
  split_ifs with hdecimal hsmall hcapital
  · exact ⟨fun _ => .inl hdecimal, fun _ => rfl⟩
  · exact ⟨fun _ => .inr (.inl hsmall), fun _ => rfl⟩
  · exact ⟨fun _ => .inr (.inr hcapital), fun _ => rfl⟩
  · refine ⟨fun h => absurd h (by decide), ?_⟩
    rintro (h | h | h)
    · exact (hdecimal h).elim
    · exact (hsmall h).elim
    · exact (hcapital h).elim

theorem isOctalDigit_iff {c : Nat} : isOctalDigit c = true ↔ 48 ≤ c ∧ c ≤ 55 := by
  rw [isOctalDigit, Bool.and_eq_true, decide_eq_true_iff, decide_eq_true_iff]

/-- No digit is a wide character or a backslash. -/
theorem lt_of_isHexDigit {c : Nat} (h : isHexDigit c = true) : c < 256 ∧ c ≠ 92 := by
  rw [isHexDigit_iff] at h
  omega

theorem lt_of_isOctalDigit {c : Nat} (h : isOctalDigit c = true) : c < 256 ∧ c ≠ 92 := by
  rw [isOctalDigit_iff] at h
  omega

/-- What is written for a wide character are a letter and hexadecimal digits. -/
theorem written_wide {c : Nat} (h : ¬ c < 256) (hlast : c ≤ CodePoint.last) :
    ∃ x w, width? x = some w ∧ letter? x = none ∧ (x = 117 ∨ x = 85) ∧
      written c = x :: Text.hex w c ∧ 1 ≤ w ∧ c < 16 ^ w := by
  rw [CodePoint.last] at hlast
  unfold written
  rw [if_neg h]
  by_cases hshort : c ≤ 0xFFFF
  · rw [if_pos hshort]
    exact ⟨117, 4, rfl, rfl, .inl rfl, rfl, by omega, by omega⟩
  · rw [if_neg hshort]
    exact ⟨85, 8, rfl, rfl, .inr rfl, rfl, by omega, by omega⟩

theorem written_spec {c d : Nat} (hlast : c ≤ CodePoint.last) (h : ¬ c < 256)
    (hd : d ∈ written c) : d < 256 ∧ d ≠ 92 := by
  rcases written_wide h hlast with ⟨x, w, -, -, hx, hwritten, hw, hc⟩
  rw [hwritten, List.mem_cons] at hd
  rcases hd with rfl | hd
  · rcases hx with rfl | rfl <;> decide
  · exact lt_of_isHexDigit (isHexDigit_of_mem_hex hw hc hd)

/-- Wherever digits are looked for, an escape that replaces a wide character ends them as the
    wide character would. -/
theorem takeWhile_narrowed {q : CodePoint → Bool} (hq : ∀ c, q c = true → c < 256 ∧ c ≠ 92)
    (n : Nat) (t : Text) : ((narrowed t).take n).takeWhile q = (t.take n).takeWhile q := by
  induction t generalizing n with
  | nil => rfl
  | cons c t ih =>
      cases n with
      | zero => rfl
      | succ n =>
          by_cases hc : c < 256
          · rw [narrowed_narrow hc, List.take_succ_cons, List.take_succ_cons, List.takeWhile_cons,
              List.takeWhile_cons, ih]
          · have hback : ¬ q 92 = true := fun h => (hq 92 h).2 rfl
            have hwide : ¬ q c = true := fun h => hc (hq c h).1
            rw [narrowed_wide hc, List.take_succ_cons, List.take_succ_cons, List.takeWhile_cons,
              List.takeWhile_cons, if_neg hback, if_neg hwide]

/-- Characters that need no escape are left alone. -/
theorem drop_narrowed {n : Nat} {t : Text} (h : Narrow (t.take n)) :
    (narrowed t).drop n = narrowed (t.drop n) := by
  induction t generalizing n with
  | nil =>
      rw [List.drop_nil]
      exact List.drop_nil
  | cons c t ih =>
      cases n with
      | zero => rfl
      | succ n =>
          rw [List.take_succ_cons] at h
          rw [narrowed_narrow (h c List.mem_cons_self), List.drop_succ_cons, List.drop_succ_cons]
          exact ih h.tail

/-- A backslash before a narrow character begins the same piece. -/
theorem after_narrowed {c : CodePoint} (hc : c < 256) (t : Text) :
    after (narrowed (c :: t)) = after (c :: t) := by
  have hoctal := takeWhile_narrowed (fun _ => lt_of_isOctalDigit) 3 (c :: t)
  have hhex := fun n => takeWhile_narrowed (fun _ => lt_of_isHexDigit) n t
  rw [narrowed_narrow hc] at hoctal ⊢
  simp only [after, hoctal, hhex]

/-- The characters of a piece that a backslash begins are narrow, if the first of them is. -/
theorem after_narrow {c : CodePoint} (hc : c < 256) {t : Text} {p : Piece} {taken : Nat}
    (h : after (c :: t) = .ok (p, taken)) :
    Narrow ((c :: t).take taken) ∧ p.narrowed = [p] := by
  have hone : Narrow ((c :: t).take 1) := fun d hd => List.mem_singleton.mp hd ▸ hc
  rw [after] at h
  by_cases hnewline : c = 10
  · rw [if_pos hnewline] at h
    cases h
    exact ⟨hone, rfl⟩
  rw [if_neg hnewline] at h
  by_cases hdigit : isOctalDigit c = true
  · rw [if_pos hdigit] at h
    cases h
    have hprefix := (List.takeWhile_prefix isOctalDigit).trans (List.take_prefix 3 (c :: t))
    rw [← List.prefix_iff_eq_take.mp hprefix]
    exact ⟨fun d hd => (lt_of_isOctalDigit (List.mem_takeWhile_imp hd)).1, rfl⟩
  rw [if_neg hdigit] at h
  by_cases hname : c = 78
  · rw [if_pos hname] at h
    cases h
    exact ⟨hone, rfl⟩
  rw [if_neg hname] at h
  rcases hletter : letter? c with _ | d <;> rw [hletter] at h
  · rcases hwidth : width? c with _ | n <;> rw [hwidth] at h
    · cases h
      exact ⟨hone, if_pos hc⟩
    · dsimp only at h
      by_cases hshort : ((t.take n).takeWhile isHexDigit).length < n
      · rw [if_pos hshort] at h
        cases h
      rw [if_neg hshort] at h
      by_cases hlarge : value 16 ((t.take n).takeWhile isHexDigit) > CodePoint.last
      · rw [if_pos hlarge] at h
        cases h
      rw [if_neg hlarge] at h
      cases h
      -- All of the digits that are asked for are there.
      have hall : (t.take n).takeWhile isHexDigit = t.take n := by
        refine (List.takeWhile_prefix isHexDigit).eq_of_length_le ?_
        rw [List.length_take]
        omega
      refine ⟨fun d hd => ?_, rfl⟩
      rcases List.mem_cons.mp hd with rfl | hd
      · exact hc
      · rw [← hall] at hd
        exact (lt_of_isHexDigit (List.mem_takeWhile_imp hd)).1
  · cases h
    exact ⟨hone, rfl⟩

theorem lookup_wide {β : Type} {c : CodePoint} (hc : ¬ c < 256) {table : List (CodePoint × β)}
    (h : ∀ e ∈ table, e.1 < 256) : table.lookup c = none := by
  rw [List.lookup_eq_none_iff]
  intro e he
  rw [bne_iff_ne]
  rintro rfl
  exact hc (h e he)

/-- A wide character begins no escape. -/
theorem after_wide {c : CodePoint} (hc : ¬ c < 256) (t : Text) :
    after (c :: t) = .ok (.kept c, 1) := by
  have hletter : letter? c = none := lookup_wide hc (by decide)
  have hwidth : width? c = none := lookup_wide hc (by decide)
  have hdigit : ¬ isOctalDigit c = true := fun h => hc (lt_of_isOctalDigit h).1
  have hnewline : c ≠ 10 := fun h => hc (h ▸ by decide)
  have hname : c ≠ 78 := fun h => hc (h ▸ by decide)
  rw [after, if_neg hnewline, if_neg hdigit, if_neg hname, hletter, hwidth]

/-- The escape that replaces a wide character is read as this character. -/
theorem after_written {c : CodePoint} (hc : ¬ c < 256) (hlast : c ≤ CodePoint.last) (t : Text) :
    after (written c ++ t) = .ok (.escape [c], (written c).length) := by
  rcases written_wide hc hlast with ⟨x, w, hwidth, hletter, hx, hwritten, hw, hbound⟩
  have hdigits : ((Text.hex w c ++ t).take w).takeWhile isHexDigit = Text.hex w c := by
    rw [List.take_left' (length_hex hw hbound)]
    exact List.takeWhile_eq_self_iff.mpr fun d hd => isHexDigit_of_mem_hex hw hbound hd
  have hother : x ≠ 10 ∧ ¬ isOctalDigit x = true ∧ x ≠ 78 := by
    rcases hx with rfl | rfl <;> decide
  rw [hwritten, List.cons_append, after, if_neg hother.1, if_neg hother.2.1, if_neg hother.2.2,
    hletter, hwidth]
  dsimp only
  rw [hdigits, length_hex hw hbound, value_hex hw hbound, if_neg (Nat.lt_irrefl w),
    if_neg (Nat.not_lt.mpr hlast), List.length_cons, length_hex hw hbound]

/-- Characters among which there is no backslash are pieces of their own. -/
theorem pieces_append {u : Text} (h : ∀ c ∈ u, c ≠ 92) (t : Text) :
    pieces (u ++ t) = u.map .point ++ pieces t := by
  induction u with
  | nil => rfl
  | cons c u ih =>
      rw [List.cons_append, pieces_point (h c List.mem_cons_self),
        ih fun d hd => h d (List.mem_cons_of_mem c hd)]
      rfl

/-- A character other than a backslash is the piece it was, or the escape that replaces it. -/
theorem pieces_narrowed_point {c : CodePoint} (hback : c ≠ 92) (hlast : c ≤ CodePoint.last)
    (t : Text) :
    pieces (narrowed (c :: t)) = (Piece.point c).narrowed ++ pieces (narrowed t) := by
  by_cases hc : c < 256
  · rw [narrowed_narrow hc, pieces_point hback, Piece.narrowed, if_pos hc]
    rfl
  · rw [narrowed_wide hc, pieces_of_after (after_written hc hlast _), List.drop_left,
      Piece.narrowed, if_neg hc]
    rfl

/-- Of a wide character kept after a backslash, the two backslashes come to be an escape, and
    what is left are the digits. -/
theorem pieces_narrowed_kept {c : CodePoint} (hc : ¬ c < 256) (hlast : c ≤ CodePoint.last)
    (t : Text) :
    pieces (92 :: narrowed (c :: t)) = (Piece.kept c).narrowed ++ pieces (narrowed t) := by
  have hafter : after (narrowed (c :: t)) = .ok (.escape [92], 1) := by
    rw [narrowed_wide hc]
    rfl
  rw [pieces_of_after hafter, narrowed_wide hc, List.drop_one, List.tail_cons,
    pieces_append (fun d hd => (written_spec hlast hc hd).2), Piece.narrowed, if_neg hc]
  rfl

/-- The pieces of a text with its wide characters replaced. -/
theorem pieces_narrowed {t : Text} (h : ∀ c ∈ t, c ≤ CodePoint.last) :
    pieces (narrowed t) = (pieces t).flatMap Piece.narrowed := by
  -- An escape may take several characters at once, so the induction is on the length.
  induction hlength : t.length using Nat.strong_induction_on generalizing t with
  | _ k ih =>
    cases t with
    | nil => rfl
    | cons c rest =>
        have hk : rest.length < k := by
          rw [← hlength]
          exact Nat.lt_succ_self _
        have hlater : ∀ n, pieces (narrowed (rest.drop n)) =
            (pieces (rest.drop n)).flatMap Piece.narrowed := by
          intro n
          refine ih _ ?_ (fun d hd => h d (List.mem_cons_of_mem c (List.mem_of_mem_drop hd))) rfl
          rw [List.length_drop]
          omega
        by_cases hback : c = 92
        · rw [hback, narrowed_narrow (by decide)]
          cases rest with
          | nil => rfl
          | cons d r =>
              by_cases hd : d < 256
              · -- The piece that begins here has no wide character in it.
                have hafter := after_narrowed hd r
                rcases hpiece : after (d :: r) with f | ⟨p, taken⟩
                · rw [hpiece] at hafter
                  rw [pieces_of_fault hafter, pieces_of_fault hpiece]
                  rfl
                · rw [hpiece] at hafter
                  rcases after_narrow hd hpiece with ⟨hnarrow, hp⟩
                  rw [pieces_of_after hafter, pieces_of_after hpiece, drop_narrowed hnarrow,
                    hlater, List.flatMap_cons, hp]
                  rfl
              · have hlast := h d (List.mem_cons_of_mem c List.mem_cons_self)
                have hr := hlater 1
                rw [List.drop_one, List.tail_cons] at hr
                rw [pieces_narrowed_kept hd hlast, hr, pieces_of_after (after_wide hd r),
                  List.drop_one, List.tail_cons, List.flatMap_cons]
        · have hrest := hlater 0
          rw [List.drop_zero] at hrest
          rw [pieces_narrowed_point hback (h c List.mem_cons_self), hrest, pieces_point hback,
            List.flatMap_cons]

/-! ### How a payload is read -/

section

variable {read : Piece → Except EscapeFault Text} {t u v : Text} {ps : List Piece} {p : Piece}

theorem narrow_narrowed (h : ∀ c ∈ t, c ≤ CodePoint.last) : Narrow (narrowed t) := by
  intro d hd
  rcases List.mem_flatMap.mp hd with ⟨c, hc, hd⟩
  unfold narrowedPoint at hd
  by_cases hsmall : c < 256
  · rw [if_pos hsmall, List.mem_singleton] at hd
    exact hd ▸ hsmall
  · rw [if_neg hsmall, List.mem_cons] at hd
    rcases hd with rfl | hd
    · decide
    · exact (written_spec (h c hc) hsmall hd).1

theorem singleBytes_eq (t : Text) : singleBytes t = bytesOf (narrowed t) := by
  have hpoint : ∀ c, singleBytesOf c = (narrowedPoint c).map Nat.toUInt8 := by
    intro c
    unfold singleBytesOf narrowedPoint written
    by_cases hsmall : c < 256
    · rw [if_pos hsmall, if_pos (Nat.le_of_lt_succ hsmall)]
      rfl
    · rw [if_neg hsmall, if_neg hsmall, if_neg fun h => hsmall (Nat.lt_succ_of_le h)]
      by_cases hshort : c ≤ 0xFFFF
      · rw [if_pos hshort, if_pos hshort]
        rfl
      · rw [if_neg hshort, if_neg hshort]
        rfl
  rw [singleBytes, bytesOf, narrowed, List.map_flatMap]
  exact List.flatMap_congr fun c _ => hpoint c

theorem joined_points (u : Text) (ps : List Piece) :
    joined Piece.text (u.map .point ++ ps) = (u ++ ·) <$> joined Piece.text ps := by
  induction u with
  | nil => cases h : joined Piece.text ps <;> rw [List.map_nil, List.nil_append, h] <;> rfl
  | cons c u ih =>
      rw [List.map_cons, List.cons_append, joined_ok rfl, ih]
      cases joined Piece.text ps <;> rfl

theorem joined_narrowed (ps : List Piece) :
    joined Piece.text (ps.flatMap Piece.narrowed) = joined Piece.got ps := by
  induction ps with
  | nil => rfl
  | cons p ps ih =>
      rw [List.flatMap_cons]
      cases p with
      | point c =>
          rw [Piece.narrowed]
          by_cases hc : c < 256
          · rw [if_pos hc, List.singleton_append, joined_ok rfl, joined_ok rfl, ih]
          · rw [if_neg hc, List.singleton_append, joined_ok rfl, joined_ok rfl, ih]
      | kept c =>
          rw [Piece.narrowed]
          by_cases hc : c < 256
          · have hgot : (Piece.kept c).got = .ok [92, c] := by rw [Piece.got, written, if_pos hc]
            rw [if_pos hc, List.singleton_append, joined_ok rfl, joined_ok hgot, ih]
          · rw [if_neg hc, List.cons_append, joined_ok rfl, joined_points, joined_ok rfl, ih]
            cases joined Piece.got ps <;> rfl
      | escape x =>
          change joined Piece.text (.escape x :: ps.flatMap Piece.narrowed) = _
          rw [joined_ok rfl, joined_ok rfl, ih]
      | named => exact (joined_error rfl).trans (joined_error rfl).symm
      | fault f => exact (joined_error rfl).trans (joined_error rfl).symm

theorem named_of_narrowed (h : .named ∈ ps.flatMap Piece.narrowed) : .named ∈ ps := by
  rcases List.mem_flatMap.mp h with ⟨p, hp, hnamed⟩
  cases p with
  | point c =>
      rw [Piece.narrowed] at hnamed
      split_ifs at hnamed <;> cases List.mem_singleton.mp hnamed
  | kept c =>
      rw [Piece.narrowed] at hnamed
      split_ifs at hnamed
      · cases List.mem_singleton.mp hnamed
      · rcases List.mem_cons.mp hnamed with hnamed | hnamed
        · cases hnamed
        · rcases List.mem_map.mp hnamed with ⟨d, -, hd⟩
          cases hd
  | escape x => cases List.mem_singleton.mp hnamed
  | named => exact hp
  | fault f => cases List.mem_singleton.mp hnamed

/-- A payload is read piece by piece, from the left. -/
theorem unescape_joined (hlast : ∀ c ∈ t, c ≤ CodePoint.last) (hnames : .named ∉ pieces t) :
    (unescape? t).mapError EscapeError.fault = joined Piece.got (pieces t) := by
  have hpieces := pieces_narrowed hlast
  have hdecodes : Decodes (bytesOf (narrowed t)) (plain (narrowed t)) := by
    refine (narrow_narrowed hlast).decodes fun h => ?_
    rw [hpieces] at h
    exact hnames (named_of_narrowed h)
  rw [unescape?, decode?, singleBytes_eq, hdecodes _ _ (Nat.le_refl _), plain, hpieces,
    joined_narrowed]

/-- What is read of a wide character after a backslash is longer than the character. -/
theorem length_written (c : CodePoint) :
    1 ≤ (written c).length ∧ ((written c).length = 1 → c < 256) := by
  have hhex : ∀ w n, w ≤ (Text.hex w n).length := by
    intro w n
    rw [Text.hex, Text.padLeft, Text.replicate, List.length_append, List.length_replicate]
    omega
  unfold written
  split_ifs with hsmall hshort
  · exact ⟨Nat.le_refl 1, fun _ => hsmall⟩
  · have hdigits := hhex 4 c
    rw [List.length_cons]
    omega
  · have hdigits := hhex 8 c
    rw [List.length_cons]
    omega

/-- A piece as it is read, beside what it stands for. -/
theorem Piece.got_text (p : Piece) :
    (∃ f, p.text = .error f ∧ p.got = .error f) ∨
      ∃ x y, p.text = .ok x ∧ p.got = .ok y ∧ x.length ≤ y.length ∧
        (x.length = y.length → ∀ c, p = .kept c → c < 256) := by
  cases p with
  | kept c =>
      rcases length_written c with ⟨hone, hsmall⟩
      refine .inr ⟨[92, c], 92 :: written c, rfl, rfl, ?_, fun hlength d hd => ?_⟩
      · exact Nat.succ_le_succ hone
      · cases hd
        exact hsmall (Nat.succ.inj hlength).symm
  | point c => exact .inr ⟨_, _, rfl, rfl, Nat.le_refl _, fun _ c hc => nomatch hc⟩
  | escape x => exact .inr ⟨_, _, rfl, rfl, Nat.le_refl _, fun _ c hc => nomatch hc⟩
  | named => exact .inl ⟨_, rfl, rfl⟩
  | fault f => exact .inl ⟨_, rfl, rfl⟩

/-- Both readings fail in the same way, or what is read is no shorter than what stands there,
    and is longer if a wide character was kept. -/
theorem joined_got_text (ps : List Piece) :
    (∃ f, joined Piece.text ps = .error f ∧ joined Piece.got ps = .error f) ∨
      ∃ u v, joined Piece.text ps = .ok u ∧ joined Piece.got ps = .ok v ∧ u.length ≤ v.length ∧
        (u.length = v.length → ∀ c, .kept c ∈ ps → c < 256) := by
  induction ps with
  | nil => exact .inr ⟨_, _, rfl, rfl, Nat.le_refl _, fun _ c hc => absurd hc List.not_mem_nil⟩
  | cons p ps ih =>
      rcases p.got_text with ⟨f, htext, hgot⟩ | ⟨x, y, htext, hgot, hle, hkept⟩
      · exact .inl ⟨f, joined_error htext, joined_error hgot⟩
      rw [joined_ok htext, joined_ok hgot]
      rcases ih with ⟨f, htexts, hgots⟩ | ⟨u, v, htexts, hgots, hles, hkepts⟩
      · rw [htexts, hgots]
        exact .inl ⟨f, rfl, rfl⟩
      · rw [htexts, hgots]
        refine .inr ⟨x ++ u, y ++ v, rfl, rfl, ?_, fun hlength c hc => ?_⟩
        · rw [List.length_append, List.length_append]
          exact Nat.add_le_add hle hles
        · rw [List.length_append, List.length_append] at hlength
          rcases List.mem_cons.mp hc with hc | hc
          · exact hkept (by omega) c hc.symm
          · exact hkepts (by omega) c hc

theorem joined_congr (h : ∀ c, .kept c ∈ ps → c < 256) :
    joined Piece.got ps = joined Piece.text ps := by
  induction ps with
  | nil => rfl
  | cons p ps ih =>
      have hrest := ih fun c hc => h c (List.mem_cons_of_mem p hc)
      have hp : p.got = p.text := by
        cases p with
        | kept c => rw [Piece.got, Piece.text, written, if_pos (h c List.mem_cons_self)]
        | _ => rfl
      rw [joined, joined, hp, hrest]

/-- Where no name is given, the plain reading fails at an escape that cannot be read. -/
theorem joined_text_error_iff (hnames : .named ∉ ps) :
    (∃ f, joined Piece.text ps = .error f) ↔ ∃ f, .fault f ∈ ps := by
  induction ps with
  | nil => exact ⟨fun ⟨_, h⟩ => (nomatch h), fun ⟨_, h⟩ => (List.not_mem_nil h).elim⟩
  | cons p ps ih =>
      rw [List.mem_cons, not_or] at hnames
      have hrest := ih hnames.2
      rcases htext : p.text with f | x
      · refine ⟨fun _ => ?_, fun _ => ⟨f, joined_error htext⟩⟩
        cases p with
        | fault g => exact ⟨g, List.mem_cons_self⟩
        | named => exact (hnames.1 rfl).elim
        | _ => cases htext
      · have hp : ∀ g, p ≠ .fault g := by
          rintro g rfl
          cases htext
        have htail : (∃ f, joined Piece.text (p :: ps) = .error f) ↔
            ∃ f, joined Piece.text ps = .error f := by
          rw [joined_ok htext]
          cases joined Piece.text ps with
          | error f => exact ⟨fun _ => ⟨f, rfl⟩, fun _ => ⟨f, rfl⟩⟩
          | ok y => exact ⟨fun ⟨_, h⟩ => (nomatch h), fun ⟨_, h⟩ => (nomatch h)⟩
        rw [htail, hrest]
        refine exists_congr fun g => ⟨List.mem_cons_of_mem p, fun h => ?_⟩
        exact (List.mem_cons.mp h).resolve_left (Ne.symm (hp g))

end

/-- A payload is read piece by piece, and fails where the plain reading fails: at an escape
    that is not complete or denotes no character, or at a backslash that ends the text. It is
    read plainly unless a wide character stands directly after a backslash that begins no
    escape: then the digits of its escape are read in its place. -/
theorem unescape_reads {t : Text} (hlast : ∀ c ∈ t, c ≤ CodePoint.last)
    (hnames : .named ∉ pieces t) :
    (unescape? t).mapError EscapeError.fault = joined Piece.got (pieces t) ∧
    (∀ f, (unescape? t).mapError EscapeError.fault = .error f ↔ plain t = .error f) ∧
    ((∃ f, plain t = .error f) ↔ ∃ f, .fault f ∈ pieces t) ∧
    ∀ u, plain t = .ok u → (unescape? t = .ok u ↔ ∀ c, .kept c ∈ pieces t → c < 256) := by
  have hjoined := unescape_joined hlast hnames
  have hok : ∀ u, unescape? t = .ok u ↔ joined Piece.got (pieces t) = .ok u := by
    intro u
    rw [← hjoined]
    cases unescape? t with
    | error e => simp only [Except.mapError, reduceCtorEq]
    | ok v => simp only [Except.mapError, Except.ok.injEq]
  refine ⟨hjoined, fun f => ?_, joined_text_error_iff hnames, fun u hu => ?_⟩
  · rw [hjoined, plain]
    rcases joined_got_text (pieces t) with ⟨g, htext, hgot⟩ | ⟨u, v, htext, hgot, -⟩
    · rw [htext, hgot]
    · simp only [htext, hgot, reduceCtorEq]
  · rw [hok]
    refine ⟨fun hgot => ?_, fun hkept => (joined_congr hkept).trans hu⟩
    rcases joined_got_text (pieces t) with ⟨g, htext, -⟩ | ⟨u', v, htext, hgot', -, hkept⟩
    · cases hu.symm.trans htext
    · cases hu.symm.trans htext
      cases hgot.symm.trans hgot'
      exact hkept rfl

/-- Two letters, an octal and a hexadecimal escape, an escaped backslash before a wide character,
    and a narrow character kept after a backslash. -/
theorem unescape_reads_mixed :
    let t : Text := [114, 92, 110, 92, 52, 49, 92, 120, 101, 57, 92, 92, 0x20AC, 92, 113, 0x1F600]
    (∀ c ∈ t, c ≤ CodePoint.last) ∧ .named ∉ pieces t ∧
      plain t = .ok [114, 10, 33, 0xE9, 92, 0x20AC, 92, 113, 0x1F600] ∧
      unescape? t = .ok [114, 10, 33, 0xE9, 92, 0x20AC, 92, 113, 0x1F600] := by
  intro t
  have hlast : ∀ c ∈ t, c ≤ CodePoint.last := by decide
  have hnames : .named ∉ pieces t := by decide
  have hplain : plain t = .ok [114, 10, 33, 0xE9, 92, 0x20AC, 92, 113, 0x1F600] := by rfl
  have hkept : ∀ c, .kept c ∈ pieces t → c < 256 := by
    have hpieces : pieces t = [.point 114, .escape [10], .escape [33], .escape [0xE9],
        .escape [92], .point 0x20AC, .kept 113, .point 0x1F600] := rfl
    intro c hc
    simp only [hpieces, List.mem_cons, Piece.kept.injEq, reduceCtorEq, List.not_mem_nil, or_false,
      false_or] at hc
    exact hc ▸ by decide
  exact ⟨hlast, hnames, hplain, ((unescape_reads hlast hnames).2.2.2 _ hplain).mpr hkept⟩

/-- The character is not kept: the digits of its escape are read in its place. -/
theorem unescape_not_plain :
    ¬ ∀ t : Text, (∀ c ∈ t, c ≤ CodePoint.last) → .named ∉ pieces t →
      (unescape? t).mapError EscapeError.fault = plain t := by
  intro h
  exact absurd (h [92, 0x20AC] (by decide) (by decide)) (by decide)

end Escape

end MockHost
