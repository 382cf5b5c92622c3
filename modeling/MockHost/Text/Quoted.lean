import MockHost.Text.Basic
import MockHost.Unicode.Printable

/-!
# Quoted text

How text and bytes are shown in messages: between quotes, with escapes for
whatever cannot be printed as it stands. Single quotes are used unless the
content has one and has no double quote. Escapes are as short as the code point
allows: a letter for tab, line feed and carriage return, otherwise two, four or
eight hexadecimal digits.

## Main definitions

* `Text.quoted`: A text between quotes.
* `Bytes.quoted`: A byte string between quotes, after the letter b.
-/

namespace MockHost

namespace Quoted

/-- The quote for content that may hold either: the single one unless only the
    double one is free. -/
def mark (hasSingle hasDouble : Bool) : CodePoint :=
  if hasSingle && !hasDouble then 34 else 39

/-- The escapes that quoted text and quoted bytes share. -/
def commonEscape? (quote c : CodePoint) : Option Text :=
  if c = quote ∨ c = 92 then some [92, c]
  else if c = 9 then some "\\t"
  else if c = 10 then some "\\n"
  else if c = 13 then some "\\r"
  else none

/-- A code point as it stands between quotes. -/
def point (quote c : CodePoint) : Text :=
  match commonEscape? quote c with
  | some escape => escape
  | none =>
    if Unicode.isPrintable c then [c]
    else if c ≤ 0xFF then "\\x" ++ Text.hex 2 c
    else if c ≤ 0xFFFF then "\\u" ++ Text.hex 4 c
    else "\\U" ++ Text.hex 8 c

/-- A byte as it stands between quotes. -/
def byte (quote : CodePoint) (b : UInt8) : Text :=
  match commonEscape? quote b.toNat with
  | some escape => escape
  | none => if 32 ≤ b ∧ b < 127 then [b.toNat] else "\\x" ++ Text.hex 2 b.toNat

end Quoted

/-- A text between quotes. -/
def Text.quoted (t : Text) : Text :=
  let quote := Quoted.mark (t.contains 39) (t.contains 34)
  quote :: t.flatMap (Quoted.point quote) ++ [quote]

/-- A byte string between quotes. -/
def Bytes.quoted (bs : Bytes) : Text :=
  let quote := Quoted.mark (bs.contains 39) (bs.contains 34)
  98 :: quote :: bs.flatMap (Quoted.byte quote) ++ [quote]

end MockHost
