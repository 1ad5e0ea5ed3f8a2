/-!
# Binary floating point

Floating-point numbers of 64 bits by value: a significand below 2^53 times a
power of two, an infinity, or none.

- `roundRatio` rounds a quotient to the nearest number, halves going to the
  even significand.
- `ofDecimal` does so for a decimal.
-/

namespace LexTree

/-- A floating-point number of 64 bits. -/
inductive Binary64 where
  /-- The number `significand * 2 ^ exponent`, negated if `negative`. -/
  | finite (negative : Bool) (significand : Nat) (exponent : Int)
  | infinite (negative : Bool)
  /-- No number at all. -/
  | undefined
deriving DecidableEq, Repr, Inhabited

namespace Binary64

/-- The least exponent of a finite number. -/
def minExponent : Int := -1074

/-- The greatest exponent of a finite number. -/
def maxExponent : Int := 971

/-- Significands are below two to this power. -/
def precision : Nat := 53

def zero (negative : Bool) : Binary64 := .finite negative 0 minExponent

/-- The quotient of two numbers times a power, as a quotient. -/
def scale (base : Nat) (num den : Nat) (power : Int) : Nat × Nat :=
  match power with
  | .ofNat p => (num * Nat.pow base p, den)
  | .negSucc p => (num, den * Nat.pow base (p + 1))

/-- A quotient to the nearest whole number, a half to the even one. -/
def roundHalfEven (num den : Nat) : Nat :=
  let q := num / den
  let twice := 2 * (num % den)
  if twice < den || (twice == den && q % 2 == 0) then q else q + 1

/-- Whether a quotient times `2 ^ -exponent` leaves room in a significand. -/
def fits (num den : Nat) (exponent : Int) : Bool :=
  let (num, den) := scale 2 num den (-exponent)
  num / den < Nat.pow 2 precision

/-- The exponent with which a quotient of positive numbers is written. -/
def exponentOf (num den : Nat) : Int :=
  let low := max minExponent (Int.ofNat num.log2 - Int.ofNat den.log2 - precision)
  if fits num den low then low else low + 1

/-- The number nearest to a quotient. -/
def roundRatio (negative : Bool) (num den : Nat) : Binary64 :=
  if num = 0 then zero negative
  else
    let exponent := exponentOf num den
    let (num, den) := scale 2 num den (-exponent)
    let significand := roundHalfEven num den
    let (significand, exponent) :=
      if significand = Nat.pow 2 precision then (Nat.pow 2 (precision - 1), exponent + 1)
      else (significand, exponent)
    if exponent > maxExponent then .infinite negative else .finite negative significand exponent

/-- The number nearest to `digits * 10 ^ power`. Beyond `10 ^ 310` lies no finite
number, and below `10 ^ -330` all are nearest to zero. -/
def ofDecimal (negative : Bool) (digits : Nat) (power : Int) : Binary64 :=
  let magnitude := power + (Nat.toDigits 10 digits).length
  if digits = 0 || magnitude < -330 then zero negative
  else if magnitude > 310 then .infinite negative
  else
    let (num, den) := scale 10 digits 1 power
    roundRatio negative num den

end Binary64

end LexTree
