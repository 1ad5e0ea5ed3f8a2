/-!
# Blanks, comments and line ends

- `skipBlanks` drops spaces and tabs, `lineEnd?` what may stand after the last
  value of a line, `skipSpacing` all that may stand between the items of a list.
-/

namespace LexTree.Toml

def isBlank (rune : Char) : Bool := rune == ' ' || rune == '\t'

def skipBlanks (text : List Char) : List Char := text.dropWhile isBlank

/-- Whether a rune may stand in comments and strings: any but the controls other than
the tab. -/
def isShown (rune : Char) : Bool := rune == '\t' || (0x20 ≤ rune.toNat && rune.toNat ≠ 0x7F)

/-- What follows a line break, if one comes next. -/
def newline? : List Char → Option (List Char)
  | '\n' :: rest => some rest
  | '\r' :: '\n' :: rest => some rest
  | _ => none

theorem length_of_newline? {text rest : List Char} (h : newline? text = some rest) :
    rest.length < text.length := by
  unfold newline? at h
  split at h
  · cases h
    exact Nat.lt_succ_self _
  · cases h
    exact Nat.lt_succ_of_lt (Nat.lt_succ_self _)
  · cases h

/-- Drops a comment, up to the end of its line. -/
def skipComment : List Char → List Char
  | '#' :: rest => rest.dropWhile isShown
  | text => text

/-- What follows the line, if nothing is left on it but blanks and a comment. -/
def lineEnd? (text : List Char) : Option (List Char) :=
  match skipComment (skipBlanks text) with
  | [] => some []
  | text => newline? text

theorem length_skipBlanks_le (text : List Char) : (skipBlanks text).length ≤ text.length :=
  (List.dropWhile_sublist _).length_le

theorem length_skipComment_le (text : List Char) : (skipComment text).length ≤ text.length := by
  unfold skipComment
  split
  · exact Nat.le_succ_of_le (List.dropWhile_sublist _).length_le
  · exact Nat.le_refl _

/-- Drops blanks, comments and line breaks. -/
def skipSpacing (text : List Char) : List Char :=
  match _h : newline? (skipComment (skipBlanks text)) with
  | some rest => skipSpacing rest
  | none => skipBlanks text
termination_by text.length
decreasing_by
  have h₁ := length_of_newline? _h
  have h₂ := length_skipComment_le (skipBlanks text)
  have h₃ := length_skipBlanks_le text
  omega

end LexTree.Toml
