/-!
# Sets of code points as tables

A property of code points is stored as the increasing list of places where
membership changes, so a code point belongs to the set when the number of
changes at or below it is odd.

- `RangeTable.contains` finds that number by bisection.
-/

namespace LexTree.Text

/-- A set of code points: the places where membership changes, in increasing
order, starting outside the set. -/
structure RangeTable where
  flips : Array Nat

namespace RangeTable

/-- With all flips before `low` at or below `code` and all from `high` on above
it, the number of flips at or below `code`. -/
def rank (t : RangeTable) (code low high : Nat) : Nat :=
  if low < high then
    let middle := (low + high) / 2
    if t.flips.getD middle 0 ≤ code then t.rank code (middle + 1) high
    else t.rank code low middle
  else low
termination_by high - low

def contains (t : RangeTable) (code : Nat) : Bool := t.rank code 0 t.flips.size % 2 == 1

end RangeTable

end LexTree.Text
