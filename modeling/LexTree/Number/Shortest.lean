import LexTree.Number.Binary64

/-!
# Shortest decimals

The text of a floating-point number: the fewest digits that read back as the
same number, the nearest of these and the greater of two as near, always written
without an exponent.

- `Binary64.shortest` gives the digits and their power of ten.
- `Binary64.text` writes the number.
-/

namespace LexTree.Binary64

/-- Whether `n * 10 ^ power` rounds to `m * 2 ^ q`: whether it lies no farther from
it than half the way to the next number on its side. The ends round to it if `m`
is even. Below a power of two the next number is nearer. -/
def readsBack (m : Nat) (q : Int) (n : Nat) (power : Int) : Bool :=
  -- in units of a quarter of the distance to the next number above
  let (unit, den) := scale 2 1 4 q
  let (num, den') := scale 10 n 1 power
  let value := num * den
  let below := if m = Nat.pow 2 (precision - 1) && q > minExponent then 4 * m - 1 else 4 * m - 2
  let low := below * unit * den'
  let high := (4 * m + 2) * unit * den'
  if m % 2 = 0 then low ≤ value && value ≤ high else low < value && value < high

/-- The power of ten of the first digit of a quotient of positive numbers. -/
def leadingPower (num den : Nat) : Int :=
  if den ≤ num then (Nat.toDigits 10 (num / den)).length - 1
  else
    let length := (Nat.toDigits 10 (den / num)).length
    if num * Nat.pow 10 (length - 1) = den then 1 - length else -length

/-- The multiple of `10 ^ power` nearest to `m * 2 ^ q` that rounds to it, of the two
around it. -/
def nearestOnGrid (m : Nat) (q power : Int) : Option Nat :=
  let (num, den) := scale 2 m 1 q
  let (num, den) := scale 10 num den (-power)
  let low := num / den
  let order := if 2 * (num % den) < den then [low, low + 1] else [low + 1, low]
  order.find? fun n => readsBack m q n power

/-- The first number of digits, from `count` on, with which `m * 2 ^ q` reads back.
The upper neighbour may have a digit more, which then is a zero. -/
def shortestFrom (m : Nat) (q : Int) (top : Int) : Nat → Nat → Nat × Int
  | 0, _ => (m, q)
  | fuel + 1, count =>
    let power := top + 1 - count
    match nearestOnGrid m q power with
    | some n => if n % 10 = 0 then (n / 10, power + 1) else (n, power)
    | none => shortestFrom m q top fuel (count + 1)

/-- The fewest digits for `m * 2 ^ q`, and their power of ten. Seventeen always do. -/
def shortest (m : Nat) (q : Int) : Nat × Int :=
  let (num, den) := scale 2 m 1 q
  shortestFrom m q (leadingPower num den) 17 1

/-- Writes `n * 10 ^ power` without an exponent. -/
def positional (n : Nat) : Int → String
  | .ofNat power => toString (n * Nat.pow 10 power)
  | .negSucc places =>
    let places := places + 1
    let unit := Nat.pow 10 places
    let digits := Nat.toDigits 10 (n % unit)
    toString (n / unit) ++ "." ++ "".pushn '0' (places - digits.length) ++
      String.ofList digits

/-- The text of a number. Whole numbers have no point. -/
def text : Binary64 → String
  | finite negative m q =>
    let sign := if negative then "-" else ""
    if m = 0 then sign ++ "0"
    else
      let (n, power) := shortest m q
      sign ++ positional n power
  | infinite negative => if negative then "-inf" else "inf"
  | undefined => "NaN"

/-- The text of a number, with `.0` after whole ones. -/
def pointedText : Binary64 → String
  | x@(finite ..) =>
    let text := x.text
    if text.contains '.' then text else text ++ ".0"
  | x => x.text

end LexTree.Binary64
