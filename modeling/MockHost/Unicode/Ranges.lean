/-!
# Sets of code points

A property of code points is kept as the ascending list of the closed ranges on
which it holds. The ranges are disjoint and not adjacent, so at most one range
can hold a given code point, and a search that halves the list finds it.

## Main definitions

* `Ranges`: A property of code points as ascending closed ranges.
* `Ranges.contains`: Membership by halving.
-/

namespace MockHost.Unicode

/-- Ascending, disjoint, closed ranges of code points. -/
abbrev Ranges := Array (Nat × Nat)

/-- The number of ranges between `lo` and `hi` that start at or before `c`, plus
    `lo`, found by halving; `fuel` bounds the number of halvings. -/
def Ranges.rank (rs : Ranges) (c : Nat) : Nat → Nat → Nat → Nat
  | 0, lo, _ => lo
  | fuel + 1, lo, hi =>
    if lo < hi then
      let mid := (lo + hi) / 2
      if (rs[mid]?.getD (0, 0)).1 ≤ c then rs.rank c fuel (mid + 1) hi
      else rs.rank c fuel lo mid
    else lo

/-- Whether one of the ranges holds `c`: only the last range that starts at or
    before `c` can. -/
def Ranges.contains (rs : Ranges) (c : Nat) : Bool :=
  match rs.rank c rs.size 0 rs.size with
  | 0 => false
  | n + 1 => c ≤ (rs[n]?.getD (0, 0)).2

end MockHost.Unicode
