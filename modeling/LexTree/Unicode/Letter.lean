import LexTree.Unicode.Latest
import LexTree.Unicode.Property

/-!
# Letters and numbers

- `isAlphabetic` is the property Alphabetic, `isNumeric` the categories of numbers.
-/

namespace LexTree.Unicode

open LexTree.Text

def letterTable : RangeTable := (alphabetic.union (.ofTable latestAlphabeticTable)).toTable

def numberTable : RangeTable :=
  ((runesOf Category.numbers).union (.ofTable latestNumberTable)).toTable

def isAlphabetic (rune : Char) : Bool := letterTable.contains rune.toNat

def isNumeric (rune : Char) : Bool := numberTable.contains rune.toNat

end LexTree.Unicode
