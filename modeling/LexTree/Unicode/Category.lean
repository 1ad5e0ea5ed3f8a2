import LexTree.Text.RuneSet
import LexTree.Unicode.Category.Table

/-!
# General categories

Every code point that stands for something is in one general category.

- `Category.runes` are the runes of a category, `runesOf` those of several.
- `categoryNamed?` finds the runes of a category, or of a group of categories, by
  its name.
-/

namespace LexTree.Unicode

open LexTree.Text

inductive Category where
  | uppercaseLetter
  | lowercaseLetter
  | titlecaseLetter
  | modifierLetter
  | otherLetter
  | nonspacingMark
  | spacingMark
  | enclosingMark
  | decimalNumber
  | letterNumber
  | otherNumber
  | connectorPunctuation
  | dashPunctuation
  | openPunctuation
  | closePunctuation
  | initialPunctuation
  | finalPunctuation
  | otherPunctuation
  | mathSymbol
  | currencySymbol
  | modifierSymbol
  | otherSymbol
  | spaceSeparator
  | lineSeparator
  | paragraphSeparator
  | control
  | format
  | privateUse
deriving DecidableEq, Repr

namespace Category

def table : Category → RangeTable
  | uppercaseLetter => uppercaseLetterTable
  | lowercaseLetter => lowercaseLetterTable
  | titlecaseLetter => titlecaseLetterTable
  | modifierLetter => modifierLetterTable
  | otherLetter => otherLetterTable
  | nonspacingMark => nonspacingMarkTable
  | spacingMark => spacingMarkTable
  | enclosingMark => enclosingMarkTable
  | decimalNumber => decimalNumberTable
  | letterNumber => letterNumberTable
  | otherNumber => otherNumberTable
  | connectorPunctuation => connectorPunctuationTable
  | dashPunctuation => dashPunctuationTable
  | openPunctuation => openPunctuationTable
  | closePunctuation => closePunctuationTable
  | initialPunctuation => initialPunctuationTable
  | finalPunctuation => finalPunctuationTable
  | otherPunctuation => otherPunctuationTable
  | mathSymbol => mathSymbolTable
  | currencySymbol => currencySymbolTable
  | modifierSymbol => modifierSymbolTable
  | otherSymbol => otherSymbolTable
  | spaceSeparator => spaceSeparatorTable
  | lineSeparator => lineSeparatorTable
  | paragraphSeparator => paragraphSeparatorTable
  | control => controlTable
  | format => formatTable
  | privateUse => privateUseTable

def runes (c : Category) : RuneSet := .ofTable c.table

/-! ## Groups -/

def casedLetters : List Category := [uppercaseLetter, lowercaseLetter, titlecaseLetter]
def letters : List Category := casedLetters ++ [modifierLetter, otherLetter]
def marks : List Category := [nonspacingMark, spacingMark, enclosingMark]
def numbers : List Category := [decimalNumber, letterNumber, otherNumber]

def punctuation : List Category :=
  [connectorPunctuation, dashPunctuation, openPunctuation, closePunctuation, initialPunctuation,
    finalPunctuation, otherPunctuation]

def symbols : List Category := [mathSymbol, currencySymbol, modifierSymbol, otherSymbol]
def separators : List Category := [spaceSeparator, lineSeparator, paragraphSeparator]

def all : List Category :=
  letters ++ marks ++ numbers ++ punctuation ++ symbols ++ separators ++
    [control, format, privateUse]

end Category

/-- The runes of some categories. -/
def runesOf (categories : List Category) : RuneSet := .unionAll (categories.map (·.runes))

/-- The code points that halves of pairs use, which are no runes. -/
def surrogates : RuneSet := .range 0xD800 0xDFFF

/-- The runes that stand for nothing. -/
def unassigned : RuneSet := ((runesOf Category.all).union surrogates).compl

open Category in
/-- The runes of the category, or the group, with a name in small letters. -/
def categoryNamed? : String → Option RuneSet
  | "lu" | "uppercaseletter" => some uppercaseLetter.runes
  | "ll" | "lowercaseletter" => some lowercaseLetter.runes
  | "lt" | "titlecaseletter" => some titlecaseLetter.runes
  | "lc" | "casedletter" => some (runesOf casedLetters)
  | "lm" | "modifierletter" => some modifierLetter.runes
  | "lo" | "otherletter" => some otherLetter.runes
  | "l" | "letter" => some (runesOf letters)
  | "mn" | "nonspacingmark" => some nonspacingMark.runes
  | "mc" | "spacingmark" => some spacingMark.runes
  | "me" | "enclosingmark" => some enclosingMark.runes
  | "m" | "mark" | "combiningmark" => some (runesOf marks)
  | "nd" | "decimalnumber" | "digit" => some decimalNumber.runes
  | "nl" | "letternumber" => some letterNumber.runes
  | "no" | "othernumber" => some otherNumber.runes
  | "n" | "number" => some (runesOf numbers)
  | "pc" | "connectorpunctuation" => some connectorPunctuation.runes
  | "pd" | "dashpunctuation" => some dashPunctuation.runes
  | "ps" | "openpunctuation" => some openPunctuation.runes
  | "pe" | "closepunctuation" => some closePunctuation.runes
  | "pi" | "initialpunctuation" => some initialPunctuation.runes
  | "pf" | "finalpunctuation" => some finalPunctuation.runes
  | "po" | "otherpunctuation" => some otherPunctuation.runes
  | "p" | "punctuation" | "punct" => some (runesOf punctuation)
  | "sm" | "mathsymbol" => some mathSymbol.runes
  | "sc" | "currencysymbol" => some currencySymbol.runes
  | "sk" | "modifiersymbol" => some modifierSymbol.runes
  | "so" | "othersymbol" => some otherSymbol.runes
  | "s" | "symbol" => some (runesOf symbols)
  | "zs" | "spaceseparator" => some spaceSeparator.runes
  | "zl" | "lineseparator" => some lineSeparator.runes
  | "zp" | "paragraphseparator" => some paragraphSeparator.runes
  | "z" | "separator" => some (runesOf separators)
  | "cc" | "control" | "cntrl" => some control.runes
  | "cf" | "format" => some format.runes
  | "co" | "privateuse" => some privateUse.runes
  | "cn" | "unassigned" => some unassigned
  | "c" | "other" =>
    some (.unionAll [runesOf [control, format, privateUse], unassigned, surrogates])
  | "any" => some .all
  | "assigned" => some unassigned.compl
  | "ascii" => some (.range 0 0x7F)
  | _ => none

end LexTree.Unicode
