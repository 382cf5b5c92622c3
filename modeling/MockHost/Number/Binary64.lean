/-!
# Double-precision numbers

A double-precision number is kept as its 64 bits, so that two numbers are equal
when their bits are and every rule about them is integer arithmetic. A finite
number is a significand times a power of two, with a sign.

## Main definitions

* `Binary64`: The bits of a number.
* `Binary64.Content`: What the bits say.
* `Binary64.ofScientific`: The number nearest to a decimal.
* `Binary64.integer?`: The integer a number is, where it is one.
-/

namespace MockHost

/-- A double-precision number. -/
structure Binary64 where
  bits : UInt64
  deriving DecidableEq, Repr

namespace Binary64

/-- What the bits of a number say. -/
inductive Content where
  | nan
  | infinite (negative : Bool)
  /-- The number is `significand` times two to the power of `exponent`. The gap
      to the next smaller magnitude is half of the gap above where `narrow` holds. -/
  | finite (negative : Bool) (significand : Nat) (exponent : Int) (narrow : Bool)
  deriving DecidableEq, Repr

/-- The sign, significand and exponent of a number. -/
def content (x : Binary64) : Content :=
  let n : Nat := x.bits.toNat
  let negative := n / Nat.pow 2 63 == 1
  let biased : Nat := n / Nat.pow 2 52 % 2048
  let fraction : Nat := n % Nat.pow 2 52
  if biased = 2047 then
    if fraction = 0 then .infinite negative else .nan
  else if biased = 0 then .finite negative fraction (-1074) false
  else .finite negative (fraction + Nat.pow 2 52) (biased - 1075) (fraction == 0 && biased > 1)

/-- The number with the same magnitude and the other sign. -/
def negate (x : Binary64) : Binary64 := ⟨x.bits ^^^ 0x8000000000000000⟩

/-- The positive infinity. -/
def infinity : Binary64 := ⟨0x7FF0000000000000⟩

/-- A value that is no number. -/
def nan : Binary64 := ⟨0x7FF8000000000000⟩

/-- The number nearest to `mantissa` times ten to the power of `exponent`. Beyond
    four hundred digits before or after the point the answer does not depend on
    the digits any more, so no larger power is ever computed. -/
def ofScientific (mantissa : Nat) (exponent : Int) : Binary64 :=
  let leading := ((Nat.toDigits 10 mantissa).length : Int) + exponent
  if mantissa = 0 ∨ leading < -400 then ⟨0⟩
  else if leading > 400 then infinity
  else if exponent < 0 then ⟨(Float.ofScientific mantissa true (-exponent).toNat).toBits⟩
  else ⟨(Float.ofScientific mantissa false exponent.toNat).toBits⟩

/-- The number nearest to an integer. -/
def ofInt (n : Int) : Binary64 :=
  let magnitude := ofScientific n.natAbs 0
  if n < 0 then magnitude.negate else magnitude

/-- The integer that a number is, unless it has a fraction or is not finite. -/
def integer? (x : Binary64) : Option Int :=
  match x.content with
  | .finite negative m q _ =>
    let magnitude : Option Nat :=
      if 0 ≤ q then some (m * Nat.pow 2 q.toNat)
      else if m % Nat.pow 2 (-q).toNat = 0 then some (m / Nat.pow 2 (-q).toNat)
      else none
    magnitude.map fun n => if negative then -(n : Int) else n
  | _ => none

/-- Whether a number is finite. -/
def isFinite (x : Binary64) : Bool :=
  match x.content with
  | .finite .. => true
  | _ => false

end Binary64

end MockHost
