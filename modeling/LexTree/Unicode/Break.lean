import LexTree.Unicode.Break.Table
import LexTree.Unicode.Property
import LexTree.Unicode.Script

/-!
# Breaks

How a rune takes part in breaking a text into graphemes, words and sentences. In
each of the three a rune has one value at most.

- `graphemeBreakNamed?`, `wordBreakNamed?` and `sentenceBreakNamed?` are the runes
  with the value of a name.
-/

namespace LexTree.Unicode

open LexTree.Text

/-- The runes of a script alone. -/
def runesOfScript (name : String) : RuneSet := (scriptNamed? name).getD .empty

def carriageReturn : RuneSet := .range 0xD 0xD

def lineFeed : RuneSet := .range 0xA 0xA

def joiner : RuneSet := .range 0x200D 0x200D

/-! ## Graphemes -/

/-- Unassigned code points that are kept for controls. -/
def reservedControls : RuneSet :=
  ⟨[⟨0x2065, 0x2065⟩, ⟨0xFFF0, 0xFFF8⟩, ⟨0xE0000, 0xE0000⟩, ⟨0xE0002, 0xE001F⟩, ⟨0xE0080, 0xE00FF⟩,
    ⟨0xE01F0, 0xE0FFF⟩]⟩

/-- Format characters that do not part graphemes: the joiners and the tags. -/
def joiningFormat : RuneSet := ⟨[⟨0x200C, 0x200D⟩, ⟨0xE0020, 0xE007F⟩]⟩

def graphemeControl : RuneSet :=
  ((runesOf [.lineSeparator, .paragraphSeparator, .control, .format]).union reservedControls).diff
    (.unionAll [carriageReturn, lineFeed, .ofTable prependedConcatenationMarkTable, joiningFormat])

/-- Spacing marks, and the two vowel signs that are letters. -/
def graphemeSpacingMark : RuneSet :=
  let joined := Category.spacingMark.runes.diff
    (graphemeExtend.union (.ofTable standaloneSpacingMarkTable))
  joined.union ⟨[⟨0xE33, 0xE33⟩, ⟨0xEB3, 0xEB3⟩]⟩

/-- Hangul syllables without a trailing consonant, of which there is one in 28. -/
def openHangul : RuneSet := runesAt ((List.range 399).map (0xAC00 + 28 * ·))

def closedHangul : RuneSet := (RuneSet.range 0xAC00 0xD7A3).diff openHangul

/-- The runes with the value in graphemes that has a name in small letters. -/
def graphemeBreakNamed? : String → Option RuneSet
  | "cn" | "control" => some graphemeControl
  | "cr" => some carriageReturn
  | "ex" | "extend" => some (graphemeExtend.union (.ofTable emojiModifierTable))
  | "l" => some (.ofTable hangulLeadingTable)
  | "lf" => some lineFeed
  | "lv" => some openHangul
  | "lvt" => some closedHangul
  | "pp" | "prepend" =>
    some ((RuneSet.ofTable prependedConcatenationMarkTable).union (.ofTable graphemePrependTable))
  | "ri" | "regionalindicator" => some (.ofTable regionalIndicatorTable)
  | "sm" | "spacingmark" => some graphemeSpacingMark
  | "t" => some (.ofTable hangulTrailingTable)
  | "v" => some (.ofTable hangulVowelTable)
  | "zwj" => some joiner
  | _ => none

/-! ## Words -/

def hebrewLetter : RuneSet := (runesOfScript "hebrew").inter Category.otherLetter.runes

/-- Letters of scripts that part words with spaces. -/
def wordLetter : RuneSet :=
  (alphabetic.diff (.unionAll [.ofTable ideographicTable, runesOfScript "hiragana",
    runesOfScript "katakana", graphemeExtend, Category.spacingMark.runes, hebrewLetter,
    .ofTable unspacedLetterTable])).union (.ofTable wordSymbolTable)

def wordNumeric : RuneSet := Category.decimalNumber.runes.union (.ofTable numericSignTable)

/-- Marks, and what else stays with the rune before it. -/
def wordExtend : RuneSet :=
  .unionAll [graphemeExtend, Category.spacingMark.runes, .ofTable emojiModifierTable]

/-- The runes with the value in words that has a name in small letters. -/
def wordBreakNamed? : String → Option RuneSet
  | "cr" => some carriageReturn
  | "dq" | "doublequote" => some (.range 0x22 0x22)
  | "ex" | "extendnumlet" =>
    some (Category.connectorPunctuation.runes.union (.range 0x202F 0x202F))
  | "extend" => some wordExtend
  | "fo" | "format" => some (Category.format.runes.diff (.ofTable breakingFormatTable))
  | "hl" | "hebrewletter" => some hebrewLetter
  | "ka" | "katakana" => some ((runesOfScript "katakana").union (.ofTable kanaMarkTable))
  | "le" | "aletter" => some wordLetter
  | "lf" => some lineFeed
  | "mb" | "midnumlet" => some (.ofTable midNumberLetterTable)
  | "ml" | "midletter" => some (.ofTable midLetterTable)
  | "mn" | "midnum" => some (.ofTable midNumberTable)
  | "nl" | "newline" => some ⟨[⟨0xB, 0xC⟩, ⟨0x85, 0x85⟩, ⟨0x2028, 0x2029⟩]⟩
  | "nu" | "numeric" => some wordNumeric
  | "ri" | "regionalindicator" => some (.ofTable regionalIndicatorTable)
  | "sq" | "singlequote" => some (.range 0x27 0x27)
  | "wsegspace" => some (.ofTable wordSpaceTable)
  | "zwj" => some joiner
  | _ => none

/-! ## Sentences -/

/-- Ends of lines and paragraphs. -/
def sentenceSeparator : RuneSet := ⟨[⟨0x85, 0x85⟩, ⟨0x2028, 0x2029⟩]⟩

def sentenceExtend : RuneSet := .unionAll [graphemeExtend, Category.spacingMark.runes, joiner]

def sentenceLower : RuneSet := lowercase.diff (.ofTable caselessLowercaseTable)

def sentenceUpper : RuneSet :=
  (uppercase.union Category.titlecaseLetter.runes).diff (.ofTable caselessUppercaseTable)

/-- Letters without case. -/
def sentenceLetter : RuneSet :=
  (alphabetic.diff (.unionAll [sentenceLower, sentenceUpper, sentenceExtend])).union
    (.range 0x5F3 0x5F3)

/-- Quotation marks and brackets. -/
def sentenceClose : RuneSet :=
  ((RuneSet.unionAll [runesOf [.openPunctuation, .closePunctuation, .initialPunctuation,
    .finalPunctuation], .ofTable quotationMarkTable]).diff
      ⟨[⟨0xFF02, 0xFF02⟩, ⟨0xFF07, 0xFF07⟩]⟩).union (.ofTable closingOrnamentTable)

/-- Format characters that are no part of a number and join nothing. -/
def sentenceFormat : RuneSet :=
  Category.format.runes.diff (.unionAll [.ofTable numericSignTable, joiningFormat])

/-- The runes with the value in sentences that has a name in small letters. -/
def sentenceBreakNamed? : String → Option RuneSet
  | "at" | "aterm" => some (.ofTable sentencePeriodTable)
  | "cl" | "close" => some sentenceClose
  | "cr" => some carriageReturn
  | "ex" | "extend" => some sentenceExtend
  | "fo" | "format" => some sentenceFormat
  | "le" | "oletter" => some sentenceLetter
  | "lf" => some lineFeed
  | "lo" | "lower" => some sentenceLower
  | "nu" | "numeric" => some (wordNumeric.union (.range 0x66C 0x66C))
  | "sc" | "scontinue" => some (.ofTable sentenceContinueTable)
  | "se" | "sep" => some sentenceSeparator
  | "sp" =>
    some (blankRunes.diff (.unionAll [carriageReturn, lineFeed, sentenceSeparator]))
  | "st" | "sterm" =>
    some ((RuneSet.ofTable sentenceTerminalTable).diff
      ⟨[⟨0x2E, 0x2E⟩, ⟨0x2024, 0x2024⟩, ⟨0xFE52, 0xFE52⟩, ⟨0xFF0E, 0xFF0E⟩]⟩)
  | "up" | "upper" => some sentenceUpper
  | _ => none

end LexTree.Unicode
