import LexTree.Unicode.Property

/-!
# Lower case

Texts in small letters. A capital letter becomes the letter to which it folds;
only a few have another small letter, or two.

- `lowerRune` is what a rune becomes wherever it stands.
- `lowered` is a text in small letters: a capital sigma depends on what is around
  it.
-/

namespace LexTree.Unicode

open LexTree.Text

def lowercaseTable : RangeTable := lowercase.toTable

def casedTable : RangeTable := cased.toTable

def caseIgnorableTable : RangeTable := caseIgnorable.toTable

/-- The rune to which a rune folds, if that is another one. -/
def foldOf? (rune : Char) : Option Char := (foldPairs.lookup rune.toNat).map Char.ofNat

/-- Whether a code point is that of a Cherokee capital with a small letter `distance` on. -/
def cherokeeDistance? (code : Nat) : Option Nat :=
  if 0x13A0 ≤ code ∧ code ≤ 0x13EF then some 0x97D0
  else if 0x13F0 ≤ code ∧ code ≤ 0x13F5 then some 8
  else none

/-- How far on the small letter is of a capital that is new in version 17 of Unicode. -/
def latestDistance? (code : Nat) : Option Nat :=
  if code = 0xA7CE ∨ code = 0xA7D2 ∨ code = 0xA7D4 then some 1
  else if 0x16EA0 ≤ code ∧ code ≤ 0x16EB8 then some 27
  else none

/-- What a rune becomes in small letters. A small letter stays, even if it folds to another;
a capital `i` with a dot becomes one with the dot above it. -/
def lowerRune (rune : Char) : List Char :=
  let code := rune.toNat
  if code ≤ 0x7F then [rune.toLower]
  else if code = 0x130 then ['i', '\u0307']
  else
    match (cherokeeDistance? code).or (latestDistance? code) with
    | some distance => [Char.ofNat (code + distance)]
    | none => if lowercaseTable.contains code then [rune] else [(foldOf? rune).getD rune]

/-- Whether the first of some runes that is not ignored for case has one. -/
def startsCased (runes : List Char) : Bool :=
  ((runes.dropWhile fun c => caseIgnorableTable.contains c.toNat).head?).any fun c =>
    casedTable.contains c.toNat

/-- What runes become after others, of which the latest comes first. A capital sigma that
ends a word becomes the sigma of word ends. -/
def lowerAfter (earlier : List Char) : List Char → List Char
  | [] => []
  | rune :: rest =>
    let lower :=
      if rune = 'Σ' then [if startsCased earlier && !startsCased rest then 'ς' else 'σ']
      else lowerRune rune
    lower ++ lowerAfter (rune :: earlier) rest

/-- A text in small letters. -/
def lowered (text : String) : String := String.ofList (lowerAfter [] text.toList)

end LexTree.Unicode
