import LexTree.Pattern.Machine
import LexTree.Pattern.Matching
import LexTree.Pattern.Meaning
import LexTree.Pattern.Parser

/-!
# Patterns for whole texts

A pattern that is asked of whole texts is put between anchors and read as one
with them.

- `AnchoredPattern.compile` reads the pattern or says why it is none.
- `AnchoredPattern.accepts` asks for a match of the anchored pattern.
-/

namespace LexTree

open Pattern

/-- A pattern between anchors, and what it means. -/
structure AnchoredPattern where
  pattern : String
  regex : Regex

namespace AnchoredPattern

/-- The pattern in a group of its own between the ends of the text. -/
def enclose (pattern : String) : String := "^(?:" ++ pattern ++ ")$"

/-- Reads a pattern, put between anchors. -/
def compile (pattern : String) : Except PatternError AnchoredPattern := do
  let pattern := enclose pattern
  let ast ← Ast.parse pattern
  let (expr, _) ← ast.meaning .default
  if expr.fits then .ok ⟨pattern, expr.regex⟩ else .error .tooLarge

/-- Whether the anchored pattern matches somewhere in a text. -/
def accepts (m : AnchoredPattern) (text : String) : Bool := m.regex.occursIn text.toList.toArray

end AnchoredPattern

end LexTree
