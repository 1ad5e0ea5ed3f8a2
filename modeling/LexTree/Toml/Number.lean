import LexTree.Number.Binary64
import LexTree.Text.Digits
import LexTree.Toml.Value

/-!
# Numbers

Whole numbers are decimal with an optional sign, or in base 16, 8 or 2 without
one, and must fit in 64 bits. Numbers with a fraction or an exponent are
floating-point; none may exceed the greatest one. An underscore may stand
between two digits.

- `number` reads a number of any kind.
-/

namespace LexTree.Toml

/-! ## Digits -/

/-- Reads the digits after one, and the underscores between them. -/
def moreDigits (base : Nat) (digits : List Char) (text : List Char) :
    Option (List Char × List Char) :=
  match text with
  | '_' :: rune :: rest =>
    if (Text.digit? base rune).isSome then moreDigits base (digits ++ [rune]) rest else none
  | rune :: rest =>
    if (Text.digit? base rune).isSome then moreDigits base (digits ++ [rune]) rest
    else if rune = '_' then none
    else some (digits, text)
  | [] => some (digits, [])

/-- Reads one digit or more, without the underscores between them. -/
def digitRow (base : Nat) : Reading (List Char)
  | rune :: rest => if (Text.digit? base rune).isSome then moreDigits base [rune] rest else none
  | [] => none

/-- The value of digits that were read. -/
def valueOf (base : Nat) (digits : List Char) : Nat := (Text.natOfDigits? base digits).getD 0

/-- Reads the digits of a decimal whole number, of which the first is no zero unless it
is the only one. -/
def wholeDigits : Reading (List Char)
  | '0' :: rest => some (['0'], rest)
  | text => digitRow 10 text

/-- Reads a sign: whether it is a minus. -/
def sign : List Char → Bool × List Char
  | '-' :: rest => (true, rest)
  | '+' :: rest => (false, rest)
  | text => (false, text)

/-! ## Whole numbers -/

def signed (negative : Bool) (n : Nat) : Int := if negative then -n else n

/-- The greatest whole number of 64 bits with a sign. -/
def maxInteger : Nat := 0x7FFFFFFFFFFFFFFF

/-- A whole number, if it fits in 64 bits with a sign; there is one more negative number. -/
def integer? (negative : Bool) (n : Nat) : Option Value :=
  let bound := if negative then maxInteger + 1 else maxInteger
  if n ≤ bound then some (.integer (signed negative n)) else none

/-- Reads the digits of a whole number in some base. -/
def based (base : Nat) : Reading Value := fun text => do
  let (digits, rest) ← digitRow base text
  return (← integer? false (valueOf base digits), rest)

/-! ## Fractions and exponents -/

/-- Reads a fraction, which may be missing. -/
def fractionDigits : Reading (List Char)
  | '.' :: rest => digitRow 10 rest
  | text => some ([], text)

/-- Reads an exponent, which may be missing. -/
def exponent : Reading Int := fun text =>
  let powered (rest : List Char) := do
    let (negative, rest) := sign rest
    let (digits, rest) ← digitRow 10 rest
    return (signed negative (valueOf 10 digits), rest)
  match text with
  | 'e' :: rest => powered rest
  | 'E' :: rest => powered rest
  | text => some (0, text)

/-- Whether a fraction or an exponent comes next. -/
def startsFraction : List Char → Bool
  | '.' :: _ => true
  | 'e' :: _ => true
  | 'E' :: _ => true
  | _ => false

/-- Reads a decimal number after its sign. -/
def decimal (negative : Bool) : Reading Value := fun text => do
  let (whole, rest) ← wholeDigits text
  if startsFraction rest then
    let (fraction, rest) ← fractionDigits rest
    let (power, rest) ← exponent rest
    let x := Binary64.ofDecimal negative (valueOf 10 (whole ++ fraction)) (power - fraction.length)
    if x = .infinite false then none else return (.float x, rest)
  else return (← integer? negative (valueOf 10 whole), rest)

/-- Reads a number. -/
def number : Reading Value
  | '0' :: 'x' :: rest => based 16 rest
  | '0' :: 'o' :: rest => based 8 rest
  | '0' :: 'b' :: rest => based 2 rest
  | text =>
    let (negative, text) := sign text
    match text with
    | 'i' :: 'n' :: 'f' :: rest => some (.float (.infinite negative), rest)
    | 'n' :: 'a' :: 'n' :: rest => some (.float .undefined, rest)
    | text => decimal negative text

end LexTree.Toml
