import Mathlib.Data.List.Infix
import MockHost.Text.Utf8

/-!
# Reading Back What Was Encoded

The bytes of a text are read back as this text, if there is no surrogate in it and
nothing past the last code point. The reader owes nothing between two code points,
so it is enough to follow it through the bytes of one. The first byte says how many
others are owed, and narrows the range of the next one; what it rules out are the
longer forms of small values, the surrogates and the values that are too large, and
a code point that can be encoded is none of these.

## Main definitions

* `CodePoint.IsScalar`: What can be encoded.

## Theorems

* `Utf8.first_toUInt8`: What a first byte says, as a number.
* `Utf8.piecesFrom_last`, `Utf8.piecesFrom_owed`: A byte that goes on with a sequence.
* `Utf8.piecesFrom_encodePoint`: The bytes of one code point are read as this code point.
* `Utf8.decode_encode`: The bytes of a text are read back as the text.
* `Utf8.encode?_eq`: Such a text can be encoded.
-/

namespace MockHost

/-- A code point that can be encoded: no surrogate, and not past the last one. -/
def CodePoint.IsScalar (c : CodePoint) : Prop := c ≤ CodePoint.last ∧ c.isSurrogate = false

instance (c : CodePoint) : Decidable c.IsScalar := inferInstanceAs (Decidable (_ ∧ _))

theorem CodePoint.IsScalar.outside {c : CodePoint} (h : c.IsScalar) : c < 0xD800 ∨ 0xDFFF < c := by
  have hnot : ¬ (0xD800 ≤ c ∧ c ≤ 0xDFFF) := by
    intro hin
    have hsurrogate : c.isSurrogate = true := by
      rw [isSurrogate, decide_eq_true hin.1, decide_eq_true hin.2]
      rfl
    exact Bool.false_ne_true (h.2.symm.trans hsurrogate)
  rwa [not_and_or, Nat.not_le, Nat.not_le] at hnot

namespace Utf8

section

variable {n : Nat}

/-! ### Bytes as numbers -/

theorem toNat_toUInt8 (h : n < 256) : n.toUInt8.toNat = n := by
  rw [Nat.toUInt8_eq, UInt8.toNat_ofNat', Nat.mod_eq_of_lt h]

theorem toUInt8_le_iff (h : n < 256) (b : UInt8) : n.toUInt8 ≤ b ↔ n ≤ b.toNat := by
  rw [UInt8.le_iff_toNat_le, toNat_toUInt8 h]

theorem le_toUInt8_iff (h : n < 256) (b : UInt8) : b ≤ n.toUInt8 ↔ b.toNat ≤ n := by
  rw [UInt8.le_iff_toNat_le, toNat_toUInt8 h]

/-- What a first byte says, as a number. -/
theorem first_toUInt8 (h : n < 256) :
    first n.toUInt8 =
      if n ≤ 0x7F then .ok (.inl n)
      else if n < 0xC2 then .error .start
      else if n ≤ 0xDF then .ok (.inr ⟨1, n - 0xC0, 0, 0x80, 0xBF⟩)
      else if n ≤ 0xEF then
        .ok (.inr ⟨1, n - 0xE0, 1, if n = 0xE0 then 0xA0 else 0x80,
          if n = 0xED then 0x9F else 0xBF⟩)
      else if n ≤ 0xF4 then
        .ok (.inr ⟨1, n - 0xF0, 2, if n = 0xF0 then 0x90 else 0x80,
          if n = 0xF4 then 0x8F else 0xBF⟩)
      else .error .start := by
  simp only [first, UInt8.le_iff_toNat_le, UInt8.lt_iff_toNat_lt, ← UInt8.toNat_inj,
    toNat_toUInt8 h, UInt8.reduceToNat]

/-! ### Going on with a sequence -/

/-- The last byte of a sequence settles a code point. -/
theorem piecesFrom_last {s : Begun} (h : n < 256) (howed : s.owed = 0) (hlow : s.low.toNat ≤ n)
    (hhigh : n ≤ s.high.toNat) (rest : Bytes) :
    piecesFrom (some s) (n.toUInt8 :: rest) =
      .point (64 * s.value + (n - 0x80)) :: piecesFrom none rest := by
  have hin : s.low ≤ n.toUInt8 ∧ n.toUInt8 ≤ s.high :=
    ⟨(le_toUInt8_iff h _).mpr hlow, (toUInt8_le_iff h _).mpr hhigh⟩
  simp only [piecesFrom, step, if_pos hin, howed, toNat_toUInt8 h]
  rfl

/-- Any other one leaves a sequence that has come one byte further. -/
theorem piecesFrom_owed {s : Begun} {owed : Nat} (h : n < 256) (howed : s.owed = owed + 1)
    (hlow : s.low.toNat ≤ n) (hhigh : n ≤ s.high.toNat) (rest : Bytes) :
    piecesFrom (some s) (n.toUInt8 :: rest) =
      piecesFrom (some ⟨s.taken + 1, 64 * s.value + (n - 0x80), owed, 0x80, 0xBF⟩) rest := by
  have hin : s.low ≤ n.toUInt8 ∧ n.toUInt8 ≤ s.high :=
    ⟨(le_toUInt8_iff h _).mpr hlow, (toUInt8_le_iff h _).mpr hhigh⟩
  simp only [piecesFrom, step, if_pos hin, howed, toNat_toUInt8 h]
  rfl

/-- A first byte that begins a longer sequence settles nothing. -/
theorem piecesFrom_first {s : Begun} (hfirst : first n.toUInt8 = .ok (.inr s)) (rest : Bytes) :
    piecesFrom none (n.toUInt8 :: rest) = piecesFrom (some s) rest := by
  simp only [piecesFrom, step, settle, hfirst]
  rfl

end

/-! ### One code point -/

section

variable {c : Nat}

theorem piecesFrom_single (h : c < 0x80) (rest : Bytes) :
    piecesFrom none (c.toUInt8 :: rest) = .point c :: piecesFrom none rest := by
  have hfirst : first c.toUInt8 = .ok (.inl c) := by
    rw [first_toUInt8 (by omega), if_pos (by omega)]
  simp only [piecesFrom, step, settle, hfirst]
  rfl

theorem piecesFrom_pair (hlow : 0x80 ≤ c) (hhigh : c < 0x800) (rest : Bytes) :
    piecesFrom none ((0xC0 + c / 0x40).toUInt8 :: (0x80 + c % 0x40).toUInt8 :: rest) =
      .point c :: piecesFrom none rest := by
  have hfirst : first (0xC0 + c / 0x40).toUInt8 =
      .ok (.inr ⟨1, 0xC0 + c / 0x40 - 0xC0, 0, 0x80, 0xBF⟩) := by
    rw [first_toUInt8 (by omega), if_neg (by omega), if_neg (by omega), if_pos (by omega)]
  have hvalue : 64 * (0xC0 + c / 0x40 - 0xC0) + (0x80 + c % 0x40 - 0x80) = c := by omega
  rw [piecesFrom_first hfirst, piecesFrom_last (by omega) rfl, hvalue]
  · exact Nat.le_add_right _ _
  · change 0x80 + c % 0x40 ≤ 0xBF
    omega

/-- A longer form that is not needed, or a surrogate, would put the second byte out of range. -/
theorem piecesFrom_triple (hlow : 0x800 ≤ c) (hhigh : c < 0x10000)
    (hscalar : c < 0xD800 ∨ 0xDFFF < c) (rest : Bytes) :
    piecesFrom none ((0xE0 + c / 0x1000).toUInt8 :: (0x80 + c / 0x40 % 0x40).toUInt8 ::
      (0x80 + c % 0x40).toUInt8 :: rest) = .point c :: piecesFrom none rest := by
  have hfirst : first (0xE0 + c / 0x1000).toUInt8 =
      .ok (.inr ⟨1, 0xE0 + c / 0x1000 - 0xE0, 1, if 0xE0 + c / 0x1000 = 0xE0 then 0xA0 else 0x80,
        if 0xE0 + c / 0x1000 = 0xED then 0x9F else 0xBF⟩) := by
    rw [first_toUInt8 (by omega), if_neg (by omega), if_neg (by omega), if_neg (by omega),
      if_pos (by omega)]
  have hvalue : 64 * (64 * (0xE0 + c / 0x1000 - 0xE0) + (0x80 + c / 0x40 % 0x40 - 0x80)) +
      (0x80 + c % 0x40 - 0x80) = c := by omega
  rw [piecesFrom_first hfirst, piecesFrom_owed (by omega) rfl, piecesFrom_last (by omega) rfl,
    hvalue]
  · exact Nat.le_add_right _ _
  · change 0x80 + c % 0x40 ≤ 0xBF
    omega
  · by_cases hfirst : 0xE0 + c / 0x1000 = 0xE0
    · rw [if_pos hfirst]
      change 0xA0 ≤ 0x80 + c / 0x40 % 0x40
      omega
    · rw [if_neg hfirst]
      exact Nat.le_add_right _ _
  · by_cases hfirst : 0xE0 + c / 0x1000 = 0xED
    · rw [if_pos hfirst]
      change 0x80 + c / 0x40 % 0x40 ≤ 0x9F
      omega
    · rw [if_neg hfirst]
      change 0x80 + c / 0x40 % 0x40 ≤ 0xBF
      omega

/-- So would a value past the last code point. -/
theorem piecesFrom_quadruple (hlow : 0x10000 ≤ c) (hhigh : c ≤ 0x10FFFF) (rest : Bytes) :
    piecesFrom none ((0xF0 + c / 0x40000).toUInt8 :: (0x80 + c / 0x1000 % 0x40).toUInt8 ::
      (0x80 + c / 0x40 % 0x40).toUInt8 :: (0x80 + c % 0x40).toUInt8 :: rest) =
      .point c :: piecesFrom none rest := by
  have hfirst : first (0xF0 + c / 0x40000).toUInt8 =
      .ok (.inr ⟨1, 0xF0 + c / 0x40000 - 0xF0, 2, if 0xF0 + c / 0x40000 = 0xF0 then 0x90 else 0x80,
        if 0xF0 + c / 0x40000 = 0xF4 then 0x8F else 0xBF⟩) := by
    rw [first_toUInt8 (by omega), if_neg (by omega), if_neg (by omega), if_neg (by omega),
      if_neg (by omega), if_pos (by omega)]
  have hvalue : 64 * (64 * (64 * (0xF0 + c / 0x40000 - 0xF0) +
      (0x80 + c / 0x1000 % 0x40 - 0x80)) + (0x80 + c / 0x40 % 0x40 - 0x80)) +
      (0x80 + c % 0x40 - 0x80) = c := by omega
  rw [piecesFrom_first hfirst, piecesFrom_owed (by omega) rfl, piecesFrom_owed (by omega) rfl,
    piecesFrom_last (by omega) rfl, hvalue]
  · exact Nat.le_add_right _ _
  · change 0x80 + c % 0x40 ≤ 0xBF
    omega
  · exact Nat.le_add_right _ _
  · change 0x80 + c / 0x40 % 0x40 ≤ 0xBF
    omega
  · by_cases hfirst : 0xF0 + c / 0x40000 = 0xF0
    · rw [if_pos hfirst]
      change 0x90 ≤ 0x80 + c / 0x1000 % 0x40
      omega
    · rw [if_neg hfirst]
      exact Nat.le_add_right _ _
  · by_cases hfirst : 0xF0 + c / 0x40000 = 0xF4
    · rw [if_pos hfirst]
      change 0x80 + c / 0x1000 % 0x40 ≤ 0x8F
      omega
    · rw [if_neg hfirst]
      change 0x80 + c / 0x1000 % 0x40 ≤ 0xBF
      omega

end

/-- The bytes of a code point are read as this code point, whatever follows them. -/
theorem piecesFrom_encodePoint {c : CodePoint} (h : c.IsScalar) (rest : Bytes) :
    piecesFrom none (encodePoint c ++ rest) = .point c :: piecesFrom none rest := by
  rw [encodePoint]
  -- One case for each length of a sequence.
  split_ifs with hone htwo hthree
  · exact piecesFrom_single hone rest
  · exact piecesFrom_pair (Nat.not_lt.mp hone) htwo rest
  · exact piecesFrom_triple (Nat.not_lt.mp htwo) hthree h.outside rest
  · exact piecesFrom_quadruple (Nat.not_lt.mp hthree) h.1 rest

/-- The bytes of a text are read back as the text. -/
theorem decode_encode {t : Text} (h : ∀ c ∈ t, c.IsScalar) : decode (encode t) = t := by
  induction t with
  | nil => rfl
  | cons c t ih =>
      have hrest := ih fun x hx => h x (List.mem_cons_of_mem c hx)
      rw [decode, pieces, encode] at hrest
      rw [decode, pieces, encode, List.flatMap_cons,
        piecesFrom_encodePoint (h c List.mem_cons_self), List.map_cons, hrest]
      rfl

example : decode (encode [0x61, 0xE9, 0x20AC, 0x1F600]) = [0x61, 0xE9, 0x20AC, 0x1F600] := by decide

/-- Such a text can be encoded. -/
theorem encode?_eq {t : Text} (h : ∀ c ∈ t, c.IsScalar) : encode? t = .ok (encode t) := by
  rw [encode?, List.findIdx?_eq_none_iff.mpr fun c hc => (h c hc).2]

end Utf8

end MockHost
