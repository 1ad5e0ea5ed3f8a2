import LexTree.Unicode.CaseFold
import LexTree.Unicode.Category
import LexTree.Unicode.Property.Table

/-!
# Properties of runes

Properties that a rune has or has not. Many follow from the category of the rune
and from a few others.

- `propertyNamed?` are the runes that have the property with a name.
- `wordRunes`, `digitRunes` and `blankRunes` are the classes of words, digits and
  blanks.
-/

namespace LexTree.Unicode

open LexTree.Text

/-! ## Letters and case -/

def lowercase : RuneSet := Category.lowercaseLetter.runes.union (.ofTable otherLowercaseTable)

def uppercase : RuneSet := Category.uppercaseLetter.runes.union (.ofTable otherUppercaseTable)

def cased : RuneSet := .unionAll [lowercase, uppercase, Category.titlecaseLetter.runes]

/-- Letters, the numbers that are letters, and what is used like them. -/
def alphabetic : RuneSet :=
  .unionAll [runesOf (.letterNumber :: Category.letters), .ofTable otherAlphabeticTable]

/-- Marks, and what does not part the cased letters of a word. -/
def caseIgnorable : RuneSet :=
  .unionAll [runesOf [.nonspacingMark, .enclosingMark, .format, .modifierLetter, .modifierSymbol],
    .ofTable caseIgnorablePunctuationTable]

/-! ### Changes of case -/

def changesWhenCasefolded : RuneSet :=
  (foldSources.union (.ofTable foldsToSeveralTable)).diff (.ofTable foldsLikeDecomposedTable)

def changesWhenLowercased : RuneSet :=
  (foldSources.diff lowercase).union (.ofTable lowersOnlyTable)

def changesWhenUppercased : RuneSet :=
  ((foldTargets.union (foldSources.inter lowercase)).union (.ofTable uppersOnlyTable)).diff
    (.ofTable uppersNotTable)

def changesWhenTitlecased : RuneSet :=
  (changesWhenUppercased.union (.ofTable titlesOnlyTable)).diff (.ofTable titlesNotTable)

def changesWhenCasemapped : RuneSet :=
  .unionAll [changesWhenLowercased, changesWhenUppercased, changesWhenTitlecased]

/-! ## Graphemes -/

def graphemeExtend : RuneSet :=
  (runesOf [.nonspacingMark, .enclosingMark]).union (.ofTable otherGraphemeExtendTable)

def graphemeBase : RuneSet :=
  (RuneSet.unionAll [runesOf [.control, .format, .privateUse, .lineSeparator, .paragraphSeparator],
    unassigned, surrogates, graphemeExtend]).compl

def defaultIgnorable : RuneSet :=
  ((RuneSet.unionAll [.ofTable otherDefaultIgnorableTable, Category.format.runes,
    .ofTable variationSelectorTable]).diff (.ofTable prependedConcatenationMarkTable)).diff
    (.ofTable visibleFormatTable)

/-! ## Identifiers -/

def idStart : RuneSet :=
  (RuneSet.unionAll [runesOf (.letterNumber :: Category.letters), .ofTable otherIdStartTable]).diff
    (.ofTable patternSyntaxTable)

def idContinue : RuneSet :=
  .unionAll [idStart, .ofTable otherIdContinueTable,
    runesOf [.nonspacingMark, .spacingMark, .decimalNumber, .connectorPunctuation]]

/-- The runes that start an identifier also after they are composed. -/
def xidStart : RuneSet := idStart.diff (.ofTable notXidStartTable)

def xidContinue : RuneSet := idContinue.diff (.ofTable notXidContinueTable)

/-! ## Classes -/

def digitRunes : RuneSet := Category.decimalNumber.runes

def blankRunes : RuneSet := .ofTable whiteSpaceTable

/-- The runes that words are made of. -/
def wordRunes : RuneSet :=
  .unionAll [alphabetic, runesOf (.decimalNumber :: .connectorPunctuation :: Category.marks),
    .ofTable joinControlTable]

/-! ## Names -/

/-- The runes that have the property with a name in small letters. -/
def propertyNamed? : String → Option RuneSet
  | "ahex" | "asciihexdigit" => some ⟨[⟨0x30, 0x39⟩, ⟨0x41, 0x46⟩, ⟨0x61, 0x66⟩]⟩
  | "alpha" | "alphabetic" => some alphabetic
  | "bidic" | "bidicontrol" => some (.ofTable bidiControlTable)
  | "ci" | "caseignorable" => some caseIgnorable
  | "cased" => some cased
  | "cwcf" | "changeswhencasefolded" => some changesWhenCasefolded
  | "cwcm" | "changeswhencasemapped" => some changesWhenCasemapped
  | "cwl" | "changeswhenlowercased" => some changesWhenLowercased
  | "cwt" | "changeswhentitlecased" => some changesWhenTitlecased
  | "cwu" | "changeswhenuppercased" => some changesWhenUppercased
  | "dash" => some (.ofTable dashTable)
  | "dep" | "deprecated" => some (.ofTable deprecatedTable)
  | "di" | "defaultignorablecodepoint" => some defaultIgnorable
  | "dia" | "diacritic" => some (.ofTable diacriticTable)
  | "ebase" | "emojimodifierbase" => some (.ofTable emojiModifierBaseTable)
  | "ecomp" | "emojicomponent" => some (.ofTable emojiComponentTable)
  | "emod" | "emojimodifier" => some (.ofTable emojiModifierTable)
  | "emoji" => some (.ofTable emojiTable)
  | "epres" | "emojipresentation" => some (.ofTable emojiPresentationTable)
  | "ext" | "extender" => some (.ofTable extenderTable)
  | "extpict" | "extendedpictographic" => some (.ofTable extendedPictographicTable)
  | "grbase" | "graphemebase" => some graphemeBase
  | "grext" | "graphemeextend" => some graphemeExtend
  | "grlink" | "graphemelink" => some (.ofTable graphemeLinkTable)
  | "hex" | "hexdigit" => some (.ofTable hexDigitTable)
  | "hyphen" => some (.ofTable hyphenTable)
  | "idc" | "idcontinue" => some idContinue
  | "idcompatmathcontinue" => some (.ofTable idCompatMathContinueTable)
  | "idcompatmathstart" => some (.ofTable idCompatMathStartTable)
  | "ideo" | "ideographic" => some (.ofTable ideographicTable)
  | "ids" | "idstart" => some idStart
  | "idsb" | "idsbinaryoperator" => some (.ofTable idsBinaryOperatorTable)
  | "idst" | "idstrinaryoperator" => some (.ofTable idsTrinaryOperatorTable)
  | "idsu" | "idsunaryoperator" => some (.ofTable idsUnaryOperatorTable)
  | "joinc" | "joincontrol" => some (.ofTable joinControlTable)
  | "loe" | "logicalorderexception" => some (.ofTable logicalOrderExceptionTable)
  | "lower" | "lowercase" => some lowercase
  | "math" => some (Category.mathSymbol.runes.union (.ofTable otherMathTable))
  | "mcm" | "modifiercombiningmark" => some (.ofTable modifierCombiningMarkTable)
  | "nchar" | "noncharactercodepoint" => some (.ofTable noncharacterCodePointTable)
  | "oalpha" | "otheralphabetic" => some (.ofTable otherAlphabeticTable)
  | "odi" | "otherdefaultignorablecodepoint" => some (.ofTable otherDefaultIgnorableTable)
  | "ogrext" | "othergraphemeextend" => some (.ofTable otherGraphemeExtendTable)
  | "oidc" | "otheridcontinue" => some (.ofTable otherIdContinueTable)
  | "oids" | "otheridstart" => some (.ofTable otherIdStartTable)
  | "olower" | "otherlowercase" => some (.ofTable otherLowercaseTable)
  | "omath" | "othermath" => some (.ofTable otherMathTable)
  | "oupper" | "otheruppercase" => some (.ofTable otherUppercaseTable)
  | "patsyn" | "patternsyntax" => some (.ofTable patternSyntaxTable)
  | "patws" | "patternwhitespace" => some (.ofTable patternWhiteSpaceTable)
  | "pcm" | "prependedconcatenationmark" => some (.ofTable prependedConcatenationMarkTable)
  | "qmark" | "quotationmark" => some (.ofTable quotationMarkTable)
  | "radical" => some (.ofTable radicalTable)
  | "ri" | "regionalindicator" => some (.ofTable regionalIndicatorTable)
  | "sd" | "softdotted" => some (.ofTable softDottedTable)
  | "sterm" | "sentenceterminal" => some (.ofTable sentenceTerminalTable)
  | "term" | "terminalpunctuation" => some (.ofTable terminalPunctuationTable)
  | "uideo" | "unifiedideograph" => some (.ofTable unifiedIdeographTable)
  | "upper" | "uppercase" => some uppercase
  | "vs" | "variationselector" => some (.ofTable variationSelectorTable)
  | "wspace" | "whitespace" | "space" => some blankRunes
  | "xidc" | "xidcontinue" => some xidContinue
  | "xids" | "xidstart" => some xidStart
  | _ => none

end LexTree.Unicode
