import LexTree.Text.RuneClass

/-!
# Reading digits

- `digit?` is the value of a digit in some base up to sixteen.
- `natOfDigits?` is the value of a row of digits; an empty row has none.
-/

namespace LexTree.Text

/-- Value of a digit below `base`. -/
def digit? (base : Nat) (rune : Char) : Option Nat :=
  (hexDigit? rune).filter (· < base)

/-- Value of a row of digits after others of value `n`. -/
def addDigits? (base n : Nat) : List Char → Option Nat
  | [] => some n
  | rune :: rest =>
    match digit? base rune with
    | some d => addDigits? base (base * n + d) rest
    | none => none

/-- Value of one or more digits. -/
def natOfDigits? (base : Nat) (digits : List Char) : Option Nat :=
  if digits.isEmpty then none else addDigits? base 0 digits

end LexTree.Text
