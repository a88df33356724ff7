import ImportScan.Text.Basic

/-! # Sets of code points

    A set of code points is kept as an inversion list: the ascending places where
    membership changes, beginning outside the set.  A code point is a member when an odd
    number of changes lie at or below it.
-/

namespace ImportScan.Unicode

/-- A set of code points as the ascending list of the places where membership changes. -/
structure CodeSet where
  /-- The places of change, ascending. -/
  changes : Array Nat

namespace CodeSet

/-- How many of the changes in positions `lo` to `hi` lie at or below `n`, counted from the
    start of the list; the changes before `lo` are known to, those from `hi` on known not to. -/
def rankBetween (changes : Array Nat) (n lo hi : Nat) : Nat :=
  if h : lo < hi then
    let mid := (lo + hi) / 2
    if changes.getD mid 0 ≤ n then rankBetween changes n (mid + 1) hi
    else rankBetween changes n lo mid
  else lo
termination_by hi - lo

/-- Membership of a code point. -/
def contains (s : CodeSet) (c : CodePoint) : Bool :=
  rankBetween s.changes c.val 0 s.changes.size % 2 == 1

end CodeSet

end ImportScan.Unicode
