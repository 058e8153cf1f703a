/-!
# Floating-point numbers

A double is a binary floating-point number of 64 bits: a significand of at most 53 bits and
an exponent, or an infinity, or no number. `Double.nearest` gives the double that is nearest
to a quotient, where of two as near the one with the even significand is taken.
-/

namespace Turnstile

/-- A binary floating-point number of 64 bits. -/
inductive Double where
  | nan
  | infinite (negative : Bool)
  /-- The significand times two to the power of the exponent. The significand has 53 bits,
  or fewer if the exponent is the least. -/
  | finite (negative : Bool) (significand : Nat) (exponent : Int)
deriving DecidableEq, Repr

namespace Double

/-- The least exponent. -/
def leastExponent : Int := -1074

/-- The greatest exponent. -/
def greatestExponent : Int := 971

/-- The least significand of 53 bits. -/
def leastFull : Nat := Nat.pow 2 52

/-- A zero, which has a sign. -/
def zero (negative : Bool) : Double := finite negative 0 leastExponent

/-! ## Rounding -/

/-- Multiplies the first number, or the second where the exponent is negative, by a power:
what stands for the quotient of the two numbers times the power. -/
def scaled (base : Nat) (exponent : Int) (numerator denominator : Nat) : Nat × Nat :=
  (numerator * Nat.pow base exponent.toNat, denominator * Nat.pow base (-exponent).toNat)

/-- The whole number nearest to a quotient; of two as near, the even one. -/
def roundedQuotient (numerator denominator : Nat) : Nat :=
  let q := numerator / denominator
  let r := numerator % denominator
  if 2 * r < denominator ∨ 2 * r = denominator ∧ q % 2 = 0 then q else q + 1

/-- The exponent at which the significand of a quotient that is not zero has 53 bits. -/
def exponentOf (numerator denominator : Nat) : Int :=
  let bits : Int := numerator.log2 - denominator.log2
  let (n, d) := scaled 2 (-bits) numerator denominator
  if n < d then bits - 53 else bits - 52

/-- The double nearest to a quotient that is not zero. -/
def nearest (negative : Bool) (numerator denominator : Nat) : Double :=
  let exponent := max (exponentOf numerator denominator) leastExponent
  let (n, d) := scaled 2 (-exponent) numerator denominator
  let significand := roundedQuotient n d
  let (significand, exponent) :=
    if significand = 2 * leastFull then (leastFull, exponent + 1) else (significand, exponent)
  if greatestExponent < exponent then infinite negative else finite negative significand exponent

/-- The double nearest to a number of decimal digits, of which the first is not zero, times a
power of ten. What is far from all doubles is not evaluated. -/
def ofDigits (negative : Bool) (digits : List Char) (exponent : Int) : Double :=
  let places := digits.length + exponent
  if digits = [] ∨ places < -330 then zero negative
  else if 310 < places then infinite negative
  else
    let (n, d) := scaled 10 exponent (Nat.ofDigitChars 10 digits 0) 1
    nearest negative n d

/-! ## The shortest decimals -/

/-- The order of a number times a power of ten and another times a power of two. -/
def compareScaled (decimal : Nat) (exponent : Int) (binary : Nat) (power : Int) : Ordering :=
  compare (decimal * Nat.pow 10 exponent.toNat * Nat.pow 2 (-power).toNat)
    (binary * Nat.pow 2 power.toNat * Nat.pow 10 (-exponent).toNat)

/-- Whether a decimal is one of those that are nearest to a double that is not zero. They
reach half way to the doubles beside it, of which the one below is only half as far off where
the significand is the least of 53 bits. -/
def isNear (significand : Nat) (power : Int) (decimal : Nat) (exponent : Int) : Bool :=
  let reach := if significand = leastFull ∧ leastExponent < power then 1 else 2
  let below := compareScaled decimal exponent (4 * significand - reach) (power - 2)
  let above := compareScaled decimal exponent (4 * significand + 2) (power - 2)
  if significand % 2 = 0 then below.isGE && above.isLE else below.isGT && above.isLT

/-- How many digits a double that is not zero has before the point, or, below zero, how many
zeros stand behind it. -/
def pointOf (significand : Nat) (power : Int) : Int :=
  let (n, d) := scaled 2 power (significand * Nat.pow 10 330) 1
  (Nat.toDigits 10 (n / d)).length - 330

/-- The decimal with a power of ten that is nearest to a double, if one stands for it: of two
as near, the greater. -/
def decimalOf? (significand : Nat) (power : Int) (exponent : Int) : Option (Nat × Int) :=
  let (n, d) := scaled 2 power significand 1
  let (n, d) := scaled 10 (-exponent) n d
  let floor := n / d
  match isNear significand power floor exponent, isNear significand power (floor + 1) exponent with
  | true, true => some (if 2 * n < (2 * floor + 1) * d then floor else floor + 1, exponent)
  | true, false => some (floor, exponent)
  | false, true => some (floor + 1, exponent)
  | false, false => none

/-- The shortest decimal that stands for a double that is not zero, and its exponent.
Seventeen digits are always enough. -/
def shortest (significand : Nat) (power : Int) : Nat × Int :=
  let point := pointOf significand power
  let ofLength? (n : Nat) := decimalOf? significand power (point - (n + 1))
  ((List.range 17).findSome? ofLength?).getD (0, 0)

end Double

end Turnstile
