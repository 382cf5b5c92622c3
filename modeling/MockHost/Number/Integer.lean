import MockHost.Text.Basic
import MockHost.Unicode.Decimal

/-!
# Integers as people write them

The loose form in which a person may write an integer: white space around it, a
sign, and decimal digits of any script with single low lines between them.

## Main definitions

* `Integer.read?`: The integer that a text denotes.
-/

namespace MockHost

namespace Integer

/-- The most digits an integer may be written with. -/
def maxDigits : Nat := 4300

/-- The values of digits in a row, where single low lines may stand between two of
    them. `afterDigit` tells whether the code point before was a digit. -/
def digitValues? : Bool → Text → Option (List Nat)
  | afterDigit, [] => if afterDigit then some [] else none
  | afterDigit, c :: rest =>
    if c = 95 then
      if afterDigit then digitValues? false rest else none
    else
      match Unicode.digitValue? c with
      | some d => (d :: ·) <$> digitValues? true rest
      | none => none

/-- The natural number that a text of digits denotes. -/
def natural? (t : Text) : Option Nat :=
  match digitValues? false t with
  | some ds => if ds.length ≤ maxDigits then some (ds.foldl (fun n d => 10 * n + d) 0) else none
  | none => none

/-- The integer that a text denotes. -/
def read? (t : Text) : Option Int :=
  match t.strip with
  | 45 :: rest => (natural? rest).map fun n => -(n : Int)
  | 43 :: rest => (natural? rest).map fun n => (n : Int)
  | rest => (natural? rest).map fun n => (n : Int)

end Integer

end MockHost
