/-!
# Decimal digits

Every script that counts in tens has its ten digits in a row of code points, so
the property of being a decimal digit and the value of the digit both follow
from the list of the zeros, in Unicode 14.

## Main definitions

* `zeros`: The digit zero of every script.
* `digitValue?`: The value of a decimal digit.
-/

namespace MockHost.Unicode

/-- The digit zero of every script that has ten digits. -/
def zeros : Array Nat := #[
  48, 1632, 1776, 1984, 2406, 2534, 2662, 2790, 2918, 3046, 3174, 3302,
  3430, 3558, 3664, 3792, 3872, 4160, 4240, 6112, 6160, 6470, 6608, 6784,
  6800, 6992, 7088, 7232, 7248, 42528, 43216, 43264, 43472, 43504, 43600, 44016,
  65296, 66720, 68912, 69734, 69872, 69942, 70096, 70384, 70736, 70864, 71248, 71360,
  71472, 71904, 72016, 72784, 73040, 73120, 92768, 92864, 93008, 120782, 120792, 120802,
  120812, 120822, 123200, 123632, 125264, 130032]

/-- The value of a decimal digit of any script. -/
def digitValue? (c : Nat) : Option Nat :=
  if c < 128 then (if 48 ≤ c ∧ c ≤ 57 then some (c - 48) else none)
  else (zeros.find? fun z => z ≤ c && c ≤ z + 9).map (c - ·)

/-- Whether `c` is a decimal digit of some script. -/
def isDecimal (c : Nat) : Bool := (digitValue? c).isSome

end MockHost.Unicode
