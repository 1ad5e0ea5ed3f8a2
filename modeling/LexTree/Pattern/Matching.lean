import LexTree.Pattern.Expr
import LexTree.Pattern.Regex
import LexTree.Text.RuneClass
import LexTree.Unicode.Property

/-!
# Matching expressions

- `Look.holds` says where a condition is true, by the runes before and after a
  place.
- `Expr.regex` is the regular expression for an expression.
-/

namespace LexTree.Pattern

open LexTree.Text LexTree.Unicode

def wordTable : RangeTable := wordRunes.toTable

/-- Whether a rune is one of a word, of all words or of those of ASCII. -/
def isWordRune (unicode : Bool) (rune : Char) : Bool :=
  if isAscii rune then isAsciiLetter rune || isAsciiDigit rune || rune == '_'
  else unicode && wordTable.contains rune.toNat

namespace Look

/-- Where a condition is true, by the runes before and after the place. -/
def holds (l : Look) (before after : Option Char) : Bool :=
  let wordBefore (unicode : Bool) := before.any (isWordRune unicode)
  let wordAfter (unicode : Bool) := after.any (isWordRune unicode)
  match l with
  | .textStart => before.isNone
  | .textEnd => after.isNone
  | .lineStart crlf =>
    before.isNone || before == some '\n' || crlf && before == some '\r' && after != some '\n'
  | .lineEnd crlf =>
    after.isNone ||
      if crlf then after == some '\r' || after == some '\n' && before != some '\r'
      else after == some '\n'
  | .wordBoundary unicode => wordBefore unicode != wordAfter unicode
  | .notWordBoundary unicode => wordBefore unicode == wordAfter unicode
  | .wordStart unicode => !wordBefore unicode && wordAfter unicode
  | .wordEnd unicode => wordBefore unicode && !wordAfter unicode
  | .wordStartHalf unicode => !wordBefore unicode
  | .wordEndHalf unicode => !wordAfter unicode

end Look

/-- A regular expression for the runes of a set. -/
def Regex.ofTable (table : RangeTable) : Regex := .rune fun c => table.contains c.toNat

/-- A regular expression for some runes in a row. -/
def Regex.ofRunes (runes : List Char) : Regex :=
  runes.foldr (fun c r => .seq (.rune (· == c)) r) .empty

/-- A regular expression so many times. Counts of a count are a single count where there is no
gap between them. -/
def Regex.repeated (body : Regex) (least : Nat) (most : Option Nat) : Regex :=
  match body with
  | .times inner l none =>
    if most ≠ some 0 ∧ (0 < least ∨ l ≤ 1) then .times inner (l * least) none
    else .times body least most
  | .times inner 0 (some m) =>
    .times inner 0 (if m = 0 then some 0 else most.map (m * ·))
  | body => .times body least most

mutual
/-- The regular expression for an expression. -/
def Expr.regex : Expr → Regex
  | .empty => .empty
  | .literal runes => .ofRunes runes
  | .oneOf set _ => .ofTable set.toTable
  | .look l => .look l.holds
  | .repetition body least most _ => body.regex.repeated least most
  | .capture _ body => body.regex
  | .concat parts => Expr.regexOfRow parts
  | .alternation branches => Expr.regexOfChoice branches

def Expr.regexOfRow : List Expr → Regex
  | [] => .empty
  | part :: parts => .seq part.regex (Expr.regexOfRow parts)

def Expr.regexOfChoice : List Expr → Regex
  | [] => .rune fun _ => false
  | branch :: branches => .alt branch.regex (Expr.regexOfChoice branches)
end

end LexTree.Pattern
