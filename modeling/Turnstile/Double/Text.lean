import Turnstile.Double.Basic
import Turnstile.Text.Decimal

/-!
# The text of floating-point numbers

A double is written with the fewest digits that stand for it and for no other: with a point
from one ten-thousandth on and below ten to the power of sixteen, and with an exponent beyond
(`Double.shown`). It is read from digits with or without a point and an exponent
(`Double.ofText?`).
-/

namespace Turnstile.Double

/-! ## Writing -/

/-- Digits with a point behind so many of them, and at least one digit on both sides of it. -/
def withPoint (digits : List Char) (point : Int) : List Char :=
  let front := digits.take point.toNat ++ List.replicate (point.toNat - digits.length) '0'
  let back := List.replicate (-point).toNat '0' ++ digits.drop point.toNat
  (if front = [] then ['0'] else front) ++ '.' :: (if back = [] then ['0'] else back)

/-- Digits with a point behind the first, if there are more, and an exponent. -/
def withExponent (digits : List Char) (exponent : Int) : List Char :=
  let point := if digits.length ≤ 1 then [] else ['.']
  digits.take 1 ++ point ++ digits.drop 1 ++ 'e' :: (Text.Decimal.ofInt exponent).toList

/-- The text of a double that is not zero, without a sign. -/
def shownMagnitude (significand : Nat) (power : Int) : List Char :=
  let (decimal, exponent) := shortest significand power
  let digits := Nat.toDigits 10 decimal
  let point := digits.length + exponent
  let digits := (digits.reverse.dropWhile (· == '0')).reverse
  if -4 < point ∧ point ≤ 16 then withPoint digits point else withExponent digits (point - 1)

/-- The text of a double. -/
def shown : Double → String
  | nan => "NaN"
  | infinite negative => if negative then "-inf" else "inf"
  | finite negative significand power =>
    let magnitude :=
      if significand = 0 then withPoint [] 0 else shownMagnitude significand power
    String.ofList ((if negative then ['-'] else []) ++ magnitude)

/-! ## Reading -/

/-- An exponent, from its mark on. There is none in an empty text. -/
def readExponent? : List Char → Option Int
  | [] => some 0
  | mark :: cs => if mark = 'e' ∨ mark = 'E' then Text.Decimal.readInt? cs else none

/-- A number of digits, with a point between or beside them or without. -/
def readDigits? (negative : Bool) (cs : List Char) : Option Double := do
  let whole := cs.takeWhile Char.isDigit
  let (decimals, rest) :=
    match cs.dropWhile Char.isDigit with
    | '.' :: rest => (rest.takeWhile Char.isDigit, rest.dropWhile Char.isDigit)
    | rest => ([], rest)
  guard (whole ≠ [] ∨ decimals ≠ [])
  let exponent ← readExponent? rest
  let digits := (whole ++ decimals).dropWhile (· == '0')
  return ofDigits negative digits (exponent - decimals.length)

/-- A double without its sign: digits or, in letters of either case, a word. -/
def readMagnitude? (negative : Bool) (cs : List Char) : Option Double :=
  let word := String.ofList (cs.map Char.toLower)
  if word = "nan" then some nan
  else if word = "inf" ∨ word = "infinity" then some (infinite negative)
  else readDigits? negative cs

/-- The double that a text stands for. -/
def ofText? (text : String) : Option Double :=
  match text.toList with
  | '-' :: cs => readMagnitude? true cs
  | '+' :: cs => readMagnitude? false cs
  | cs => readMagnitude? false cs

end Turnstile.Double
