import LexTree.Text.RuneClass

/-!
# Plain YAML scalars that are not texts

Unquoted, some texts stand for nothing, a truth value or a number, and must be
quoted to stay texts.

- `resolvesToOther` holds of these texts.
-/

namespace LexTree.Format.Yaml

open LexTree.Text

/-- Nothing: the empty text, `null` in three spellings, and the tilde. -/
def isNull (s : List Char) : Bool :=
  s.isEmpty || s == ['~'] || s == "null".toList || s == "Null".toList || s == "NULL".toList

def isBool (s : List Char) : Bool :=
  s == "true".toList || s == "True".toList || s == "TRUE".toList ||
    s == "false".toList || s == "False".toList || s == "FALSE".toList

/-- Drops one leading sign out of some. -/
def dropSign (signs : List Char) : List Char → List Char
  | c :: s => if signs.contains c then s else c :: s
  | [] => []

/-- Value of digits in a base; nothing for no digits or for other runes. -/
def digits? (base : Nat) (s : List Char) : Option Nat :=
  if s.isEmpty then none
  else
    s.foldl (fun value c =>
      match value, hexDigit? c with
      | some value, some digit => if digit < base then some (value * base + digit) else none
      | _, _ => none) (some 0)

/-- Value of digits after `0x`, `0o` or `0b`. -/
def based? : List Char → Option Nat
  | '0' :: 'x' :: s => digits? 16 s
  | '0' :: 'o' :: s => digits? 8 s
  | '0' :: 'b' :: s => digits? 2 s
  | _ => none

/-- A leading zero and more digits, after any sign. Such a text is no number. -/
def isZeroPadded (s : List Char) : Bool :=
  match dropSign ['-', '+'] s with
  | '0' :: s => !s.isEmpty && s.all isAsciiDigit
  | _ => false

/-- An integer of 128 bits. -/
def isInteger (s : List Char) : Bool :=
  let unsigned := dropSign ['+'] s
  (based? unsigned).any (· < Nat.pow 2 128) ||
    (match s with
      | '-' :: s =>
        (based? s).any (· ≤ Nat.pow 2 127) || (digits? 10 s).any (· ≤ Nat.pow 2 127)
      | _ => (digits? 10 unsigned).any (· < Nat.pow 2 128))

/-! ## Floating-point numbers -/

/-- Exponent of a number: after `e`, a sign and digits, or nothing at all. -/
def exponent? : List Char → Option Int
  | [] => some 0
  | e :: s =>
    if e = 'e' || e = 'E' then
      match s with
      | '-' :: s => (digits? 10 s).map fun n => -(n : Int)
      | s => (digits? 10 (dropSign ['+'] s)).map Int.ofNat
    else none

/-- The digits of a decimal number without its point, and its exponent. -/
def decimal? (s : List Char) : Option (List Char × Int) :=
  let whole := s.takeWhile isAsciiDigit
  let rest := s.dropWhile isAsciiDigit
  let (fraction, rest) :=
    match rest with
    | '.' :: rest => (rest.takeWhile isAsciiDigit, rest.dropWhile isAsciiDigit)
    | rest => ([], rest)
  if whole.isEmpty && fraction.isEmpty then none
  else (exponent? rest).map fun e => (whole ++ fraction, e - fraction.length)

/-- The least number that is rounded to infinity in double precision. -/
def overflow : Nat := Nat.pow 2 1024 - Nat.pow 2 970

/-- Whether digits with an exponent of ten stay below `overflow`. -/
def isFinite (digits : List Char) (exponent : Int) : Bool :=
  let digits := digits.dropWhile (· == '0')
  let magnitude := (digits.length : Int) + exponent
  if digits.isEmpty || magnitude < 300 then true
  else if 310 < magnitude then false
  else
    let value := (digits? 10 digits).getD 0
    match exponent with
    | .ofNat e => decide (value * Nat.pow 10 e < overflow)
    | .negSucc e => decide (value < overflow * Nat.pow 10 (e + 1))

/-- A finite decimal number, an infinity or the value that is no number. -/
def isFloat (s : List Char) : Bool :=
  let unsigned := dropSign ['+'] s
  [".inf", ".Inf", ".INF"].any (·.toList == unsigned) ||
    ["-.inf", "-.Inf", "-.INF", ".nan", ".NaN", ".NAN"].any (·.toList == s) ||
    (decimal? (if unsigned.length < s.length then unsigned else dropSign ['-'] s)).any
      fun (digits, exponent) => isFinite digits exponent

/-- Whether an unquoted text would be read as something other than a text, or
looks like a number with leading zeros. -/
def resolvesToOther (text : String) : Bool :=
  let s := text.toList
  isNull s || isBool s || isZeroPadded s || isInteger s || isFloat s

end LexTree.Format.Yaml
