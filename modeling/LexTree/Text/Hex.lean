/-!
# Hexadecimal digits

- `hexDigits` writes a number without leading zeros, `hexPadded` with a fixed
  number of digits.
-/

namespace LexTree.Text

/-- A digit below 16, with letters from `ten` on. -/
def hexDigit (ten : Char) (digit : Nat) : Char :=
  if digit < 10 then Char.ofNat ('0'.toNat + digit) else Char.ofNat (ten.toNat + digit - 10)

/-- The digits of a number in base 16, with lower-case letters. -/
def hexDigits (n : Nat) : String :=
  String.ofList ((Nat.toDigits 16 n))

/-- The last `width` digits of a number in base 16, with letters from `ten` on. -/
def hexPadded (ten : Char) (width n : Nat) : String :=
  String.ofList
    ((List.range width).reverse.map fun place => hexDigit ten (n / Nat.pow 16 place % 16))

end LexTree.Text
