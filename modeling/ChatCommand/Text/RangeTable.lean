/-
Sets of characters given as ranges.

* `RangeTable`: ascending, disjoint ranges of code points, ends included;
* `RangeTable.contains`: membership, by halving.
-/

namespace ChatCommand.Text

/-- Ascending, disjoint ranges of code points, ends included. -/
structure RangeTable where
  ranges : Array (Nat × Nat)

/-- Whether one of the ranges number `lo` to `hi - 1` holds `n`. -/
def RangeTable.containsBetween (t : RangeTable) (n lo hi : Nat) : Bool :=
  if _h : lo < hi then
    let mid := (lo + hi) / 2
    match t.ranges[mid]? with
    | none => false
    | some (first, last) =>
      if n < first then t.containsBetween n lo mid
      else if last < n then t.containsBetween n (mid + 1) hi
      else true
  else false
termination_by hi - lo
decreasing_by all_goals omega

/-- Whether the code point `n` lies in one of the ranges. -/
def RangeTable.contains (t : RangeTable) (n : Nat) : Bool :=
  t.containsBetween n 0 t.ranges.size

end ChatCommand.Text
