import MockHost.Number.Binary64
import MockHost.Text.Basic

/-!
# Shortest decimals

The text of a number is the decimal with the fewest digits that still reads back
to it; of two such decimals it is the nearer one, and on a tie the one with the
even last digit. A decimal reads back to a number when it lies in the interval
of reals that round to it. The interval ends half-way to the neighbours and holds
its ends when the significand is even.

All comparisons are made between integers: with a decimal grid of step ten to the
power of `k` and binary quarters of step two to the power of `q - 2`, both sides
are scaled until neither has a negative power left.

## Main definitions

* `Shortest.digits`: The digits and the exponent of a positive number.
* `Binary64.text`: The text of a number.
-/

namespace MockHost

namespace Shortest

/-- The scales of a decimal grid point and of a binary quarter: `n` points of the
    grid lie at `n * grid` where `b` quarters lie at `b * quarter`. -/
structure Scale where
  grid : Nat
  quarter : Nat

/-- The common scale of the powers of ten to `k` and of two to `q - 2`. -/
def scale (q k : Int) : Scale :=
  ⟨Nat.pow 10 k.toNat * Nat.pow 2 (2 - q).toNat, Nat.pow 2 (q - 2).toNat * Nat.pow 10 (-k).toNat⟩

/-- Whether `n` points of the grid read back to the number. -/
def readsBack (m : Nat) (narrow : Bool) (s : Scale) (n : Nat) : Bool :=
  let low := (4 * m - if narrow then 1 else 2) * s.quarter
  let high := (4 * m + 2) * s.quarter
  if m % 2 = 0 then low ≤ n * s.grid && n * s.grid ≤ high
  else low < n * s.grid && n * s.grid < high

/-- The point of a grid that reads back and is nearest to the number. Only the two
    neighbours of the number on the grid can be. -/
def onGrid? (m : Nat) (narrow : Bool) (s : Scale) : Option Nat :=
  let here := 4 * m * s.quarter
  let below := here / s.grid
  let toBelow := here - below * s.grid
  let toAbove := (below + 1) * s.grid - here
  match readsBack m narrow s below, readsBack m narrow s (below + 1) with
  | true, true =>
    some (if toBelow < toAbove ∨ (toBelow = toAbove ∧ below % 2 = 0) then below else below + 1)
  | true, false => some below
  | false, true => some (below + 1)
  | false, false => none

/-- The exponent of the leading decimal digit of `m` times two to the power of `q`:
    a guess from the length in bits, set right by one where it is off. -/
def leadingExponent (m : Nat) (q : Int) : Int :=
  let guess := ((m.log2 + q) * 30103) / 100000
  let atLeast (e : Int) : Bool :=
    Nat.pow 10 e.toNat * Nat.pow 2 (-q).toNat ≤ m * Nat.pow 2 q.toNat * Nat.pow 10 (-e).toNat
  if atLeast (guess + 1) then guess + 1
  else if atLeast guess then guess
  else guess - 1

/-- A number without its trailing zeros, and their count added to `exponent`. -/
def dropZeros : Nat → Nat → Int → Nat × Int
  | 0, n, exponent => (n, exponent)
  | fuel + 1, n, exponent =>
    if n % 10 = 0 ∧ n ≠ 0 then dropZeros fuel (n / 10) (exponent + 1) else (n, exponent)

/-- The shortest decimal that reads back to `m` times two to the power of `q`, as an
    integer and the power of ten it is multiplied by. Seventeen digits are enough. -/
def digits (m : Nat) (q : Int) (narrow : Bool) : Nat × Int :=
  let leading := leadingExponent m q
  let found := (List.range 17).findSome? fun (d : Nat) =>
    let k := leading - d
    (onGrid? m narrow (scale q k)).map fun n => (n, k)
  let (n, k) := found.getD (m, 0)
  dropZeros 20 n k

/-- A shortest decimal laid out with a point, or with an exponent of at least two
    digits where the leading digit lies outside the places from the fourth after
    the point to the sixteenth before it. -/
def layout (n : Nat) (k : Int) : Text :=
  let ds := Text.ofNat n
  let leading := k + (ds.length - 1 : Nat)
  if -4 ≤ leading ∧ leading < 16 then
    if 0 ≤ k then ds ++ Text.replicate k.toNat 48 ++ ".0"
    else if 0 ≤ leading then
      ds.take (leading + 1).toNat ++ "." ++ ds.drop (leading + 1).toNat
    else "0." ++ Text.replicate (-leading - 1).toNat 48 ++ ds
  else
    let fraction : Text := if ds.length = 1 then "" else 46 :: ds.drop 1
    let mark : Text := if leading < 0 then "e-" else "e+"
    ds.take 1 ++ fraction ++ mark ++ Text.padLeft 2 48 (Text.ofNat leading.natAbs)

end Shortest

/-- The text of a number: the shortest decimal that reads back to it. -/
def Binary64.text (x : Binary64) : Text :=
  match x.content with
  | .nan => "nan"
  | .infinite negative => if negative then "-inf" else "inf"
  | .finite negative m q narrow =>
    let sign : Text := if negative then "-" else ""
    let (n, k) := Shortest.digits m q narrow
    sign ++ if m = 0 then Text.ofString "0.0" else Shortest.layout n k

end MockHost
