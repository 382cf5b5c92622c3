import MockHost.Unicode.Blank

/-!
# Text and bytes

Text is kept as the list of its code points. A code point here may be a lone
surrogate: such text cannot be encoded, but it can be written down with an
escape, compared and shown, so the type has to hold it. Bytes are kept as lists
too, since every rule about them reads from the front.

## Main definitions

* `CodePoint`, `Text`, `Bytes`: The three types.
* `Text.ofString`: The code points of a string.
* `Text.toString?`: The string of a text without surrogates.
* `Text.join`: Texts one after another with a separator between them.
* `Text.strip`: A text without the white space around it.
* `Text.hex`: A number in lower-case hexadecimal digits.
-/

namespace MockHost

/-- A code point, surrogates included. -/
abbrev CodePoint := Nat

/-- Text as its code points. -/
abbrev Text := List CodePoint

/-- A byte string. -/
abbrev Bytes := List UInt8

/-- The largest code point. -/
def CodePoint.last : CodePoint := 0x10FFFF

/-- Whether a code point is one half of a pair of UTF-16 units. -/
def CodePoint.isSurrogate (c : CodePoint) : Bool := 0xD800 ≤ c && c ≤ 0xDFFF

namespace Text

/-- The code points of a string. -/
def ofString (s : String) : Text := s.toList.map Char.toNat

instance : Coe String Text := ⟨ofString⟩

theorem ofString_inj {s t : String} : ofString s = ofString t ↔ s = t := by
  rw [ofString, ofString, List.map_inj_right (fun _ _ h => Char.toNat_inj.mp h), String.toList_inj]

/-- A number in decimal digits. -/
def ofNat (n : Nat) : Text := ofString (toString n)

/-- A number in decimal digits, after a minus sign where it is negative. -/
def ofInt (n : Int) : Text := ofString (toString n)

/-- Whether some code point is a surrogate. -/
def hasSurrogate (t : Text) : Bool := t.any CodePoint.isSurrogate

/-- The string with these code points, where there is one. -/
def toString? (t : Text) : Option String :=
  if t.hasSurrogate then none else some (String.ofList (t.map Char.ofNat))

/-- The texts one after another, with `separator` between them. -/
def join (separator : Text) : List Text → Text
  | [] => []
  | [t] => t
  | t :: ts => t ++ separator ++ join separator ts

/-- Whether a text comes no later than another, compared code point by code point. -/
def notAfter : Text → Text → Bool
  | [], _ => true
  | _ :: _, [] => false
  | c :: t, d :: u => c < d || (c == d && notAfter t u)

/-- A text without the white space at its start. -/
def stripStart (t : Text) : Text := t.dropWhile Unicode.isBlank

/-- A text without the white space at its end. -/
def stripEnd (t : Text) : Text := (t.reverse.dropWhile Unicode.isBlank).reverse

/-- A text without the white space around it. -/
def strip (t : Text) : Text := t.stripStart.stripEnd

/-- A code point `n` times. -/
def replicate (n : Nat) (c : CodePoint) : Text := List.replicate n c

/-- A text filled up with spaces on the right to at least `width` code points. -/
def padRight (width : Nat) (t : Text) : Text := t ++ replicate (width - t.length) 32

/-- A text filled up with `fill` on the left to at least `width` code points. -/
def padLeft (width : Nat) (fill : CodePoint) (t : Text) : Text :=
  replicate (width - t.length) fill ++ t

/-- A number in lower-case hexadecimal, with at least `width` digits. -/
def hex (width n : Nat) : Text :=
  padLeft width 48 ((Nat.toDigits 16 n).map Char.toNat)

/-- A text cut at every occurrence of `separator`, which is dropped. -/
def splitOn (separator : CodePoint) (t : Text) : List Text :=
  t.foldr (fun c parts =>
    if c = separator then [] :: parts
    else match parts with
      | [] => [[c]]
      | p :: ps => (c :: p) :: ps) [[]]

/-- A text, after as many code points as `skip` says, with one text in it replaced by
    another from left to right. -/
def replaceAfter (old new : Text) : Nat → Text → Text
  | _, [] => []
  | skip + 1, _ :: rest => replaceAfter old new skip rest
  | 0, c :: rest =>
    if old.isPrefixOf (c :: rest) then new ++ replaceAfter old new (old.length - 1) rest
    else c :: replaceAfter old new 0 rest

/-- A text with one text in it, which is not empty, replaced by another. -/
def replaceAll (t old new : Text) : Text := replaceAfter old new 0 t

/-- The value of an ASCII digit in base sixteen, in either case. -/
def hexDigit? (c : CodePoint) : Option Nat :=
  if 48 ≤ c ∧ c ≤ 57 then some (c - 48)
  else if 97 ≤ c ∧ c ≤ 102 then some (c - 87)
  else if 65 ≤ c ∧ c ≤ 70 then some (c - 55)
  else none

/-- Whether a code point is an ASCII digit. -/
def isDigit (c : CodePoint) : Bool := 48 ≤ c && c ≤ 57

/-- The value of a run of ASCII digits. -/
def digitsValue (t : Text) : Nat := t.foldl (fun n c => 10 * n + (c - 48)) 0

/-- An ASCII capital letter as its small letter, anything else as it stands. -/
def lowerAscii (c : CodePoint) : CodePoint := if 65 ≤ c ∧ c ≤ 90 then c + 32 else c

/-- An ASCII small letter as its capital letter, anything else as it stands. -/
def upperAscii (c : CodePoint) : CodePoint := if 97 ≤ c ∧ c ≤ 122 then c - 32 else c

end Text

namespace Bytes

/-- Two lower-case hexadecimal digits for every byte. -/
def hex (bs : Bytes) : Text := bs.flatMap fun b => Text.hex 2 b.toNat

end Bytes

end MockHost
