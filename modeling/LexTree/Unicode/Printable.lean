import LexTree.Unicode.Latest
import LexTree.Unicode.Property

/-!
# Printable runes

- `isPrintable` holds of the runes that a quoted text shows as they are: all but
  controls, format characters, unassigned and private code points, separators
  other than the space, and the runes that extend a grapheme or are ignored.
-/

namespace LexTree.Unicode

open LexTree.Text

/-- Marks of voiced kana at half width, which are shown although they extend a grapheme. -/
def voicingMarks : RuneSet := .range 0xFF9E 0xFF9F

/-- The runes that show nothing of their own. -/
def unprintable : RuneSet :=
  (RuneSet.unionAll
    [(runesOf [.control, .format, .privateUse, .lineSeparator, .paragraphSeparator]),
      Category.spaceSeparator.runes.diff (.single ' '), unassigned, surrogates,
      graphemeExtend.diff voicingMarks, defaultIgnorable]).diff
    (.ofTable latestVisibleTable)

def unprintableTable : RangeTable := unprintable.toTable

def isPrintable (rune : Char) : Bool := !unprintableTable.contains rune.toNat

end LexTree.Unicode
