import Mathlib.Data.List.TakeWhile
import Mathlib.Tactic.IntervalCases
import MockHost.Proofs.Text.Utf8
import MockHost.Text.Escape

/-!
# The Pieces of a Payload

Read plainly, from the left, a payload falls into pieces: characters that stand for
themselves, escapes that stand for what they denote, and backslashes before a character
that begins no escape, which are kept together with it.

A payload is not read in this way but byte by byte. Over a text whose characters all fit in
a byte the two readings are the same, digit for digit.

## Main definitions

* `Escape.Piece`, `Escape.pieces`: The pieces of a text.
* `Escape.plain`: The plain reading of a text.
* `Escape.Narrow`, `Escape.bytesOf`: A text whose characters fit in a byte, and its bytes.
* `Escape.Decodes`: What bytes are read as.

## Theorems

* `Escape.value_hex`, `Escape.length_hex`: A number in hexadecimal is read back.
* `Escape.Narrow.decodes`: Over single bytes the reading is the plain one.
-/

namespace MockHost

namespace Escape

/-! ### The plain reading -/

/-- The characters that a letter or mark stands for after a backslash. -/
def letter? (c : CodePoint) : Option CodePoint :=
  [(92, 92), (39, 39), (34, 34), (97, 7), (98, 8), (102, 12), (110, 10), (114, 13), (116, 9),
    (118, 11)].lookup c

/-- How many hexadecimal digits follow a letter. -/
def width? (c : CodePoint) : Option Nat := [(120, 2), (117, 4), (85, 8)].lookup c

def isOctalDigit (c : CodePoint) : Bool := 48 ≤ c && c ≤ 55

def isHexDigit (c : CodePoint) : Bool := (Text.hexDigit? c).isSome

/-- The number that digits denote. -/
def value (base : Nat) (ds : Text) : Nat :=
  ds.foldl (fun n c => base * n + (Text.hexDigit? c).getD 0) 0

/-- A piece of a text. -/
inductive Piece where
  | point (c : CodePoint)
  | escape (denoted : Text)
  /-- A backslash and a character that begins no escape. -/
  | kept (c : CodePoint)
  /-- An escape that gives the name of a character. -/
  | named
  /-- An escape that cannot be read. -/
  | fault (f : EscapeFault)
  deriving DecidableEq, Repr

/-- The piece that a backslash begins before a text, and how many characters of the text
    belong to it. -/
def after : Text → Except EscapeFault (Piece × Nat)
  | [] => .error .atEnd
  | c :: rest =>
    if c = 10 then .ok (.escape [], 1)
    else if isOctalDigit c then
      let ds := ((c :: rest).take 3).takeWhile isOctalDigit
      .ok (.escape [value 8 ds], ds.length)
    else if c = 78 then .ok (.named, 1)
    else
      match letter? c, width? c with
      | some d, _ => .ok (.escape [d], 1)
      | none, some n =>
        let ds := (rest.take n).takeWhile isHexDigit
        if ds.length < n then .error (.truncated c n)
        else if value 16 ds > CodePoint.last then .error .illegal
        else .ok (.escape [value 16 ds], n + 1)
      | none, none => .ok (.kept c, 1)

/-- The pieces of a text, of which so many characters belong to the piece before. There is
    none after an escape that cannot be read. -/
def piecesAfter : Nat → Text → List Piece
  | _, [] => []
  | skip + 1, _ :: rest => piecesAfter skip rest
  | 0, c :: rest =>
    if c = 92 then
      match after rest with
      | .error f => [.fault f]
      | .ok (p, taken) => p :: piecesAfter taken rest
    else .point c :: piecesAfter 0 rest

/-- The pieces of a text. -/
def pieces (t : Text) : List Piece := piecesAfter 0 t

/-- What a piece stands for. Names are not looked up. -/
def Piece.text : Piece → Except EscapeFault Text
  | .point c => .ok [c]
  | .escape denoted => .ok denoted
  | .kept c => .ok [92, c]
  | .named => .error .unknownName
  | .fault f => .error f

/-- The pieces together, each of which is read by `read`. -/
def joined (read : Piece → Except EscapeFault Text) : List Piece → Except EscapeFault Text
  | [] => .ok []
  | p :: ps => do
    let t ← read p
    return t ++ (← joined read ps)

/-- The plain reading of a text. -/
def plain (t : Text) : Except EscapeFault Text := joined Piece.text (pieces t)

example : plain [97, 92, 110, 92, 52, 49, 92, 113, 0x20AC] = .ok [97, 10, 33, 92, 113, 0x20AC] := by
  decide

/-! ### Numbers in hexadecimal -/

section

variable {w n : Nat}

/-- The digit that a number below sixteen is written with. -/
def digit (n : Nat) : CodePoint := (Nat.digitChar n).toNat

theorem hexDigit?_digit (h : n < 16) : Text.hexDigit? (digit n) = some n := by
  interval_cases n <;> rfl

theorem isHexDigit_digit (h : n < 16) : isHexDigit (digit n) = true := by
  rw [isHexDigit, hexDigit?_digit h]
  rfl

theorem hex_one (h : n < 16) : Text.hex 1 n = [digit n] := by
  rw [Text.hex, Nat.toDigits_of_lt_base h]
  rfl

/-- The last digit stands at the end, and the others are those of the quotient. -/
theorem hex_succ (hw : 1 ≤ w) (n : Nat) :
    Text.hex (w + 1) n = Text.hex w (n / 16) ++ [digit (n % 16)] := by
  unfold Text.hex Text.padLeft Text.replicate
  rw [Nat.toDigits_eq_if (by omega)]
  by_cases hn : n < 16
  · -- The quotient is zero, which is one more digit to fill up with.
    rw [if_pos hn, Nat.div_eq_of_lt hn, Nat.mod_eq_of_lt hn, Nat.toDigits_of_lt_base (by omega)]
    rcases Nat.exists_eq_add_of_le' hw with ⟨k, rfl⟩
    simp only [List.map_cons, List.map_nil, List.length_cons, List.length_nil, Nat.add_sub_cancel,
      List.replicate_succ', digit]
    rfl
  · rw [if_neg hn, List.map_append, List.length_append, List.map_cons, List.map_nil,
      List.length_cons, List.length_nil, Nat.zero_add, Nat.add_sub_add_right, List.append_assoc]
    rfl

theorem value_concat (base : Nat) (ds : Text) (c : CodePoint) :
    value base (ds ++ [c]) = base * value base ds + (Text.hexDigit? c).getD 0 := by
  rw [value, List.foldl_append]
  rfl

theorem length_hex (hw : 1 ≤ w) (h : n < 16 ^ w) : (Text.hex w n).length = w := by
  induction w, hw using Nat.le_induction generalizing n with
  | base => rw [hex_one (by simpa using h), List.length_singleton]
  | succ w hw ih =>
      rw [hex_succ hw, List.length_append, ih (by rw [Nat.pow_succ] at h; omega),
        List.length_singleton]

theorem value_hex (hw : 1 ≤ w) (h : n < 16 ^ w) : value 16 (Text.hex w n) = n := by
  induction w, hw using Nat.le_induction generalizing n with
  | base =>
      have hn : n < 16 := by simpa using h
      rw [hex_one hn, ← List.nil_append [digit n], value_concat, hexDigit?_digit hn]
      exact Nat.zero_add n
  | succ w hw ih =>
      rw [hex_succ hw, value_concat, ih (by rw [Nat.pow_succ] at h; omega),
        hexDigit?_digit (Nat.mod_lt n (by omega))]
      exact Nat.div_add_mod n 16

theorem isHexDigit_of_mem_hex (hw : 1 ≤ w) (h : n < 16 ^ w) {c : CodePoint}
    (hc : c ∈ Text.hex w n) : isHexDigit c = true := by
  induction w, hw using Nat.le_induction generalizing n with
  | base =>
      have hn : n < 16 := by simpa using h
      rw [hex_one hn, List.mem_singleton] at hc
      rw [hc, isHexDigit_digit hn]
  | succ w hw ih =>
      rw [hex_succ hw, List.mem_append, List.mem_singleton] at hc
      rcases hc with hc | rfl
      · exact ih (by rw [Nat.pow_succ] at h; omega) hc
      · exact isHexDigit_digit (Nat.mod_lt n (by omega))

end

/-! ### Reading bytes -/

theorem toUInt8_eq_iff : ∀ c < 256, (c.toUInt8 = 10 ↔ c = 10) ∧ (c.toUInt8 = 78 ↔ c = 78) ∧
    (c.toUInt8 = 92 ↔ c = 92) := by
  decide +kernel

theorem isOctal_toUInt8 : ∀ c < 256, isOctal c.toUInt8 = isOctalDigit c := by
  decide +kernel

theorem single?_toUInt8 : ∀ c < 256, single? c.toUInt8 = letter? c := by
  decide +kernel

theorem digitCount?_toUInt8 : ∀ c < 256, digitCount? c.toUInt8 = width? c := by
  decide +kernel

/-- All characters fit in a byte. -/
def Narrow (t : Text) : Prop := ∀ c ∈ t, c < 256

/-- The bytes of a text whose characters fit in one. -/
def bytesOf (t : Text) : Bytes := t.map Nat.toUInt8

section

variable {t : Text} {p : Piece} {taken : Nat} {f : EscapeFault}

theorem Narrow.tail {c : CodePoint} (h : Narrow (c :: t)) : Narrow t :=
  fun d hd => h d (List.mem_cons_of_mem c hd)

theorem Narrow.takeWhile_bytesOf (h : Narrow t) {q : UInt8 → Bool} {r : CodePoint → Bool}
    (hqr : ∀ c < 256, q c.toUInt8 = r c) :
    (bytesOf t).takeWhile q = bytesOf (t.takeWhile r) := by
  induction t with
  | nil => rfl
  | cons c t ih =>
      have hc := hqr c (h c List.mem_cons_self)
      have hrest := ih h.tail
      unfold bytesOf at hrest ⊢
      rw [List.map_cons, List.takeWhile_cons, List.takeWhile_cons, hc, hrest]
      by_cases hr : r c = true
      · rw [if_pos hr, if_pos hr, List.map_cons]
      · rw [if_neg hr, if_neg hr, List.map_nil]

theorem Narrow.number_bytesOf (h : Narrow t) (base : Nat) :
    number base (bytesOf t) = value base t := by
  induction t using List.reverseRecOn with
  | nil => rfl
  | append_singleton t c ih =>
      have hrest := ih fun d hd => h d (List.mem_append_left [c] hd)
      have hc : c.toUInt8.toNat = c :=
        Utf8.toNat_toUInt8 (h c (List.mem_append_right t List.mem_cons_self))
      rw [value_concat, ← hrest, number, number, bytesOf, List.map_append, List.foldl_append,
        List.map_cons, List.map_nil, List.foldl_cons, List.foldl_nil, hc]
      rfl

theorem Narrow.take (h : Narrow t) (n : Nat) : Narrow (t.take n) :=
  fun c hc => h c (List.mem_of_mem_take hc)

theorem Narrow.drop (h : Narrow t) (n : Nat) : Narrow (t.drop n) :=
  fun c hc => h c (List.mem_of_mem_drop hc)

theorem Narrow.takeWhile (h : Narrow t) (r : CodePoint → Bool) : Narrow (t.takeWhile r) :=
  fun c hc => h c (List.takeWhile_subset _ hc)

theorem isHex_toUInt8 (c : CodePoint) (h : c < 256) : isHex c.toUInt8 = isHexDigit c := by
  rw [isHex, isHexDigit, Utf8.toNat_toUInt8 h]

/-- A piece that a backslash begins, read by itself. -/
def reading : Piece × Nat → Except EscapeFault (Text × Nat)
  | (p, taken) => (·, taken) <$> p.text

/-- What stands after a backslash is found to be the piece that the backslash begins. -/
theorem Narrow.found_bytesOf (h : Narrow t) (hname : t.head? ≠ some 78) :
    (found (bytesOf t)).mapError Prod.fst = after t >>= reading := by
  cases t with
  | nil => rfl
  | cons c rest =>
      have hc : c < 256 := h c List.mem_cons_self
      have hbyte := toUInt8_eq_iff c hc
      have hoctal : ((bytesOf (c :: rest)).take 3).takeWhile isOctal =
          bytesOf (((c :: rest).take 3).takeWhile isOctalDigit) := by
        rw [bytesOf, ← List.map_take]
        exact (h.take 3).takeWhile_bytesOf isOctal_toUInt8
      have hhex : ∀ n, ((bytesOf rest).take n).takeWhile isHex =
          bytesOf ((rest.take n).takeWhile isHexDigit) := by
        intro n
        rw [bytesOf, ← List.map_take]
        exact (h.tail.take n).takeWhile_bytesOf isHex_toUInt8
      have hlength : ∀ ds : Text, (bytesOf ds).length = ds.length := fun ds => List.length_map _
      rw [after]
      change (found (c.toUInt8 :: bytesOf rest)).mapError Prod.fst = _
      change ((c.toUInt8 :: bytesOf rest).take 3).takeWhile isOctal = _ at hoctal
      rw [found, hoctal, isOctal_toUInt8 c hc, single?_toUInt8 c hc, digitCount?_toUInt8 c hc]
      by_cases hnewline : c = 10
      · rw [if_pos hnewline, if_pos (hbyte.1.mpr hnewline)]
        rfl
      rw [if_neg hnewline, if_neg fun heq => hnewline (hbyte.1.mp heq)]
      by_cases hdigit : isOctalDigit c = true
      · rw [if_pos hdigit, if_pos hdigit]
        dsimp only
        rw [((h.take 3).takeWhile _).number_bytesOf, hlength]
        rfl
      have hn : c ≠ 78 := fun heq => hname (congrArg some heq)
      rw [if_neg hdigit, if_neg hdigit, if_neg hn, if_neg fun heq => hn (hbyte.2.1.mp heq)]
      rcases letter? c with _ | d
      · rcases width? c with _ | n
        · dsimp only
          rw [Utf8.toNat_toUInt8 hc]
          rfl
        · dsimp only
          rw [hhex, hlength, ((h.tail.take n).takeWhile _).number_bytesOf, Utf8.toNat_toUInt8 hc]
          by_cases hshort : ((rest.take n).takeWhile isHexDigit).length < n
          · rw [if_pos hshort, if_pos hshort]
            rfl
          · rw [if_neg hshort, if_neg hshort]
            by_cases hlarge : value 16 ((rest.take n).takeWhile isHexDigit) > CodePoint.last
            · rw [if_pos hlarge, if_pos hlarge]
              rfl
            · rw [if_neg hlarge, if_neg hlarge]
              rfl
      · rfl

theorem Narrow.found_fault (h : Narrow t) (hname : t.head? ≠ some 78)
    (hafter : after t = .error f) : ∃ n, found (bytesOf t) = .error (f, n) := by
  have hfound := h.found_bytesOf hname
  rw [hafter] at hfound
  rcases hbytes : found (bytesOf t) with ⟨g, n⟩ | _ <;> rw [hbytes] at hfound <;> cases hfound
  exact ⟨n, rfl⟩

theorem Narrow.found_piece (h : Narrow t) (hname : t.head? ≠ some 78)
    (hafter : after t = .ok (p, taken)) :
    (∃ f n, p.text = .error f ∧ found (bytesOf t) = .error (f, n)) ∨
      ∃ x, p.text = .ok x ∧ found (bytesOf t) = .ok (x, taken) := by
  have hfound := h.found_bytesOf hname
  rw [hafter] at hfound
  change _ = reading (p, taken) at hfound
  rw [reading] at hfound
  rcases htext : p.text with f | x <;> rcases hbytes : found (bytesOf t) with ⟨g, n⟩ | ⟨y, n⟩ <;>
    rw [htext, hbytes] at hfound <;> cases hfound
  · exact .inl ⟨_, _, rfl, rfl⟩
  · exact .inr ⟨_, rfl, rfl⟩

/-! ### Pieces and what they are read as -/

theorem piecesAfter_eq (n : Nat) (t : Text) : piecesAfter n t = pieces (t.drop n) := by
  induction t generalizing n with
  | nil =>
      rw [List.drop_nil]
      cases n <;> rfl
  | cons c t ih =>
      cases n with
      | zero => rfl
      | succ n => exact ih n

theorem pieces_point {c : CodePoint} (h : c ≠ 92) (t : Text) :
    pieces (c :: t) = .point c :: pieces t :=
  if_neg h

theorem pieces_of_after (h : after t = .ok (p, taken)) :
    pieces (92 :: t) = p :: pieces (t.drop taken) := by
  rw [← piecesAfter_eq]
  change (match after t with
    | .error f => [Piece.fault f]
    | .ok (p, taken) => p :: piecesAfter taken t) = _
  rw [h]

theorem pieces_of_fault (h : after t = .error f) : pieces (92 :: t) = [.fault f] := by
  change (match after t with
    | .error f => [Piece.fault f]
    | .ok (p, taken) => p :: piecesAfter taken t) = _
  rw [h]

theorem head?_ne_of_not_named (h : .named ∉ pieces (92 :: t)) : t.head? ≠ some 78 := by
  rcases t with _ | ⟨c, t⟩
  · exact fun hc => nomatch hc
  · rintro hc
    cases hc
    have hafter : after (78 :: t) = .ok (.named, 1) := rfl
    exact h (pieces_of_after hafter ▸ List.mem_cons_self)

section

variable {read : Piece → Except EscapeFault Text} {x : Text} {ps : List Piece}

theorem joined_ok (h : read p = .ok x) :
    joined read (p :: ps) = (x ++ ·) <$> joined read ps := by
  rw [joined, h]
  rfl

theorem joined_error (h : read p = .error f) : joined read (p :: ps) = .error f := by
  rw [joined, h]
  rfl

end

/-! ### Reading narrow texts -/

/-- What bytes are decoded to, wherever they stand. -/
def Decodes (bs : Bytes) (res : Except EscapeFault Text) : Prop :=
  ∀ fuel start, bs.length ≤ fuel → (decodeFrom fuel start bs).mapError EscapeError.fault = res

section

variable {bs : Bytes} {res : Except EscapeFault Text} {x : Text} {n : Nat}

theorem mapError_map (g : Text → Text) (r : Except EscapeError Text) :
    (g <$> r).mapError EscapeError.fault = g <$> r.mapError EscapeError.fault := by
  cases r <;> rfl

theorem Decodes.nil : Decodes [] (.ok []) := by
  intro fuel start _
  cases fuel <;> rfl

theorem Decodes.byte {b : UInt8} (hb : b ≠ 92) (h : Decodes bs res) :
    Decodes (b :: bs) ((b.toNat :: ·) <$> res) := by
  intro fuel start hfuel
  rcases Nat.exists_eq_add_of_lt (Nat.lt_of_lt_of_le (Nat.zero_lt_succ _) hfuel) with ⟨k, rfl⟩
  rw [Nat.zero_add, decodeFrom, if_neg hb, mapError_map, h k _ (by simpa using hfuel)]

theorem Decodes.escape (hfound : found bs = .ok (x, n)) (h : Decodes (bs.drop n) res) :
    Decodes (92 :: bs) ((x ++ ·) <$> res) := by
  intro fuel start hfuel
  rcases Nat.exists_eq_add_of_lt (Nat.lt_of_lt_of_le (Nat.zero_lt_succ _) hfuel) with ⟨k, rfl⟩
  have hrest : (bs.drop n).length ≤ k := by
    rw [List.length_cons] at hfuel
    rw [List.length_drop]
    omega
  rw [Nat.zero_add, decodeFrom, if_pos rfl, hfound]
  dsimp only
  rw [mapError_map, h k _ hrest]

theorem Decodes.fault (hfound : found bs = .error (f, n)) : Decodes (92 :: bs) (.error f) := by
  intro fuel start hfuel
  rcases Nat.exists_eq_add_of_lt (Nat.lt_of_lt_of_le (Nat.zero_lt_succ _) hfuel) with ⟨k, rfl⟩
  rw [Nat.zero_add, decodeFrom, if_pos rfl, hfound]
  rfl

end

/-- Over single bytes the reading is the plain one. -/
theorem Narrow.decodes (h : Narrow t) (hnames : .named ∉ pieces t) :
    Decodes (bytesOf t) (plain t) := by
  -- An escape may take several characters at once, so the induction is on the length.
  induction hlength : t.length using Nat.strong_induction_on generalizing t with
  | _ k ih =>
    cases t with
    | nil => exact .nil
    | cons c rest =>
        have hc : c < 256 := h c List.mem_cons_self
        have hk : rest.length < k := by
          rw [← hlength]
          exact Nat.lt_succ_self _
        by_cases hback : c = 92
        · rw [hback] at hnames ⊢
          have hname := head?_ne_of_not_named hnames
          rcases hafter : after rest with f | ⟨p, taken⟩
          · rcases h.tail.found_fault hname hafter with ⟨n, hfound⟩
            rw [plain, pieces_of_fault hafter]
            exact .fault hfound
          · rw [pieces_of_after hafter, List.mem_cons, not_or] at hnames
            have hrest : Decodes ((bytesOf rest).drop taken) (plain (rest.drop taken)) := by
              rw [bytesOf, ← List.map_drop]
              refine ih _ ?_ (h.tail.drop taken) hnames.2 rfl
              rw [List.length_drop]
              omega
            rw [plain, pieces_of_after hafter]
            rcases h.tail.found_piece hname hafter with ⟨f, n, htext, hfound⟩ | ⟨x, htext, hfound⟩
            · rw [joined_error htext]
              exact .fault hfound
            · rw [joined_ok htext]
              exact hrest.escape hfound
        · rw [pieces_point hback, List.mem_cons, not_or] at hnames
          have hbyte : c.toUInt8 ≠ 92 := fun heq => hback ((toUInt8_eq_iff c hc).2.2.mp heq)
          have hrest := ih _ hk h.tail hnames.2 rfl
          have hdecodes := hrest.byte hbyte
          rw [Utf8.toNat_toUInt8 hc] at hdecodes
          rw [plain, pieces_point hback]
          exact hdecodes

end

end Escape

end MockHost
