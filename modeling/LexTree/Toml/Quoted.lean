import LexTree.Text.Digits
import LexTree.Toml.Spacing
import LexTree.Toml.Value

/-!
# Quoted strings

Strings stand in double or single quotes. Double quotes allow escapes; three
quotes allow line breaks, of which one right after the opening quotes does not
count.

- `quoted` reads a string of any of the four kinds, `quotedLine` one of the two
  that stay on a line.
-/

namespace LexTree.Toml

/-! ## Escapes -/

/-- The rune whose number is given in so many hexadecimal digits. -/
def numberedRune (width : Nat) : Reading Char := fun text =>
  if text.length < width then none
  else
    match (Text.natOfDigits? 16 (text.take width)).bind Text.rune? with
    | some rune => some (rune, text.drop width)
    | none => none

/-- What an escape stands for, after its backslash. -/
def escaped : Reading Char
  | 'b' :: rest => some ('\x08', rest)
  | 't' :: rest => some ('\t', rest)
  | 'n' :: rest => some ('\n', rest)
  | 'f' :: rest => some ('\x0C', rest)
  | 'r' :: rest => some ('\r', rest)
  | '"' :: rest => some ('"', rest)
  | '\\' :: rest => some ('\\', rest)
  | 'u' :: rest => numberedRune 4 rest
  | 'U' :: rest => numberedRune 8 rest
  | _ => none

theorem length_of_numberedRune {width : Nat} {text rest : List Char} {rune : Char}
    (h : numberedRune width text = some (rune, rest)) : rest.length ≤ text.length := by
  unfold numberedRune at h
  split at h
  · simp at h
  · split at h
    · simp only [Option.some.injEq, Prod.mk.injEq] at h
      rw [← h.2, List.length_drop]
      omega
    · simp at h

theorem length_of_escaped {text rest : List Char} {rune : Char}
    (h : escaped text = some (rune, rest)) : rest.length < text.length := by
  unfold escaped at h
  split at h
  case h_8 | h_9 => exact Nat.lt_succ_of_le (length_of_numberedRune h)
  case h_10 => cases h
  all_goals
    cases h
    exact Nat.lt_succ_self _

/-! ## On one line -/

/-- Reads up to the double quote that ends a string, after `out`. -/
def escapedLine (out : String) (text : List Char) : Option (String × List Char) :=
  match text with
  | [] => none
  | '"' :: rest => some (out, rest)
  | '\\' :: rest =>
    match _h : escaped rest with
    | some (rune, rest) => escapedLine (out.push rune) rest
    | none => none
  | rune :: rest => if isShown rune then escapedLine (out.push rune) rest else none
termination_by text.length
decreasing_by
  · have := length_of_escaped _h
    simp only [List.length_cons]
    omega
  · simp

/-- Reads up to the single quote that ends a string. Nothing is escaped. -/
def literalLine : Reading String := fun text =>
  let inside (rune : Char) := rune != '\'' && isShown rune
  match text.dropWhile inside with
  | '\'' :: rest => some (String.ofList (text.takeWhile inside), rest)
  | _ => none

/-- Reads a string that stays on its line. -/
def quotedLine : Reading String
  | '"' :: rest => escapedLine "" rest
  | '\'' :: rest => literalLine rest
  | _ => none

/-! ## Over several lines -/

/-- Up to two quotes may stand right before the three that end a string. -/
def closing (quote : Char) (out : String) (rest : List Char) : String × List Char :=
  let extra := min 2 (rest.takeWhile (· == quote)).length
  (out.pushn quote extra, rest.drop extra)

/-- Drops blanks and line breaks. -/
def skipBreaks (text : List Char) : List Char :=
  match _h : newline? (skipBlanks text) with
  | some rest => skipBreaks rest
  | none => skipBlanks text
termination_by text.length
decreasing_by
  have h₁ := length_of_newline? _h
  have h₂ := length_skipBlanks_le text
  omega

theorem length_skipBreaks_le (text : List Char) : (skipBreaks text).length ≤ text.length := by
  fun_induction skipBreaks text with
  | case1 text rest h ih =>
    have h₁ := length_of_newline? h
    have h₂ := length_skipBlanks_le text
    omega
  | case2 text h => exact length_skipBlanks_le text

/-- Reads up to the three double quotes that end a string, after `out`. A backslash
at the end of a line joins it to the next text. -/
def escapedBlock (out : String) (text : List Char) : Option (String × List Char) :=
  match text with
  | [] => none
  | '"' :: '"' :: '"' :: rest => some (closing '"' out rest)
  | '\\' :: rest =>
    match _h : newline? (skipBlanks rest) with
    | some after => escapedBlock out (skipBreaks after)
    | none =>
      match _h : escaped rest with
      | some (rune, rest) => escapedBlock (out.push rune) rest
      | none => none
  | rune :: rest =>
    if isShown rune then escapedBlock (out.push rune) rest
    else
      match _h : newline? (rune :: rest) with
      | some rest => escapedBlock (out.push '\n') rest
      | none => none
termination_by text.length
decreasing_by
  · have h₁ := length_skipBreaks_le after
    have h₂ := length_of_newline? _h
    have h₃ := length_skipBlanks_le rest
    simp only [List.length_cons]
    omega
  · have := length_of_escaped _h
    simp only [List.length_cons]
    omega
  · simp
  · exact length_of_newline? _h

/-- Reads up to the three single quotes that end a string, after `out`. -/
def literalBlock (out : String) (text : List Char) : Option (String × List Char) :=
  match text with
  | [] => none
  | '\'' :: '\'' :: '\'' :: rest => some (closing '\'' out rest)
  | rune :: rest =>
    if isShown rune then literalBlock (out.push rune) rest
    else
      match _h : newline? (rune :: rest) with
      | some rest => literalBlock (out.push '\n') rest
      | none => none
termination_by text.length
decreasing_by
  · simp
  · exact length_of_newline? _h

/-- Drops one line break. -/
def skipNewline (text : List Char) : List Char := (newline? text).getD text

/-- Reads a string of any kind. -/
def quoted : Reading String
  | '"' :: '"' :: '"' :: rest => escapedBlock "" (skipNewline rest)
  | '\'' :: '\'' :: '\'' :: rest => literalBlock "" (skipNewline rest)
  | text => quotedLine text

end LexTree.Toml
