import Turnstile.Json.Basic
import Turnstile.Text.Decimal

/-!
# Numbers in JSON

A number is read as an integer where it is written as one, is not `-0` and fits a word of
64 bits, unsigned if it has no sign; any other number is a float. Fields of this library
take integers only, so a float's value does not matter, but its size does: one that is too
large for a binary float of 64 bits is not accepted as a number at all.

`Significand.take` keeps the digits of a number that fit 64 bits unsigned. The digits after
them count as powers of ten before the point and for nothing behind it.
-/

namespace Turnstile.Json

/-- A number as it is written: an integer, or a float, of which only this is kept. -/
inductive Number where
  | int (value : Int)
  | float
deriving DecidableEq, Repr

/-- The digits at the front of a text, and the rest. -/
def digits (cs : List Char) : List Char × List Char :=
  (cs.takeWhile Char.isDigit, cs.dropWhile Char.isDigit)

/-- The greatest number of 64 bits. -/
abbrev maxWord : Nat := 18446744073709551615

/-- The value of a decimal digit. -/
def digitValue (c : Char) : Nat := c.toNat - 0x30

/-- Appends digits to a number as long as it fits 64 bits, and tells how many it took. -/
def Significand.take : Nat → List Char → Nat × Nat
  | n, [] => (n, 0)
  | n, c :: cs =>
    let n' := n * 10 + digitValue c
    if n' ≤ maxWord then
      let (m, taken) := Significand.take n' cs
      (m, taken + 1)
    else (n, 0)

/-! ## The size of a float -/

/-- The nearest number with at most 53 binary digits before its zeros; of two as near, the
one whose last such digit is even. -/
def nearestFloat (n : Nat) : Nat :=
  let shift := n.log2 - 52
  let unit := Nat.pow 2 shift
  let q := n / unit
  let r := n % unit
  if 2 * r < unit then q * unit
  else if 2 * r = unit then (if q % 2 = 0 then q else q + 1) * unit
  else (q + 1) * unit

/-- Whether `significand` times ten to the power `exponent` is too large for a float of 64
bits, where both factors are rounded before they are multiplied. -/
def isTooLarge (significand : Nat) (exponent : Int) : Bool :=
  match exponent with
  | .negSucc _ => false
  | .ofNat e =>
    significand != 0 &&
      (308 < e ||
        Nat.pow 2 1024 - Nat.pow 2 970 ≤
          nearestFloat significand * nearestFloat (Nat.pow 10 e))

/-- A float, if it is not too large. -/
def floatOf (significand : Nat) (exponent : Int) (rest : List Char) :
    Except Fault (Number × List Char) :=
  if isTooLarge significand exponent then .error .malformed else .ok (.float, rest)

/-! ## Reading -/

/-- The greatest exponent that is evaluated. -/
abbrev maxExponent : Nat := 2147483647

/-- Reads what follows the `e` of a number whose point stands `exponent` places on. -/
def readExponent (significand : Nat) (exponent : Int) (cs : List Char) :
    Except Fault (Number × List Char) :=
  let (negative, cs) :=
    match cs with
    | '+' :: cs => (false, cs)
    | '-' :: cs => (true, cs)
    | cs => (false, cs)
  match digits cs with
  | ([], []) => .error .truncated
  | ([], _ :: _) => .error .malformed
  | (ds, rest) =>
    let n := Nat.ofDigitChars 10 ds 0
    if maxExponent < n then
      if significand ≠ 0 ∧ negative = false then .error .malformed else .ok (.float, rest)
    else floatOf significand (if negative then exponent - n else exponent + n) rest

/-- Reads what follows the point of a number with the given digits before it. -/
def readDecimals (significand : Nat) (exponent : Int) (cs : List Char) :
    Except Fault (Number × List Char) :=
  match digits cs with
  | ([], []) => .error .truncated
  | ([], _ :: _) => .error .malformed
  | (ds, rest) =>
    let (significand, taken) := Significand.take significand ds
    let exponent := exponent - taken
    match rest with
    | 'e' :: rest => readExponent significand exponent rest
    | 'E' :: rest => readExponent significand exponent rest
    | rest => floatOf significand exponent rest

/-- The number that the digits before `rest` stand for, when nothing of a float follows. -/
def wholeNumber (negative : Bool) (value : Nat) (rest : List Char) :
    Except Fault (Number × List Char) :=
  if negative then
    if 1 ≤ value ∧ value ≤ 9223372036854775808 then .ok (.int (-(value : Int)), rest)
    else .ok (.float, rest)
  else .ok (.int value, rest)

/-- Reads what follows the digits `ds` of a number. -/
def readFraction (negative : Bool) (ds rest : List Char) : Except Fault (Number × List Char) :=
  let (significand, taken) := Significand.take 0 ds
  let exponent : Int := (ds.length - taken : Nat)
  match rest with
  | '.' :: rest => readDecimals significand exponent rest
  | 'e' :: rest => readExponent significand exponent rest
  | 'E' :: rest => readExponent significand exponent rest
  | rest =>
    if taken = ds.length then wholeNumber negative significand rest
    else floatOf significand exponent rest

/-- Reads a number from its first digit on. Only a single digit may be zero. -/
def readMagnitude (negative : Bool) (cs : List Char) : Except Fault (Number × List Char) :=
  match digits cs with
  | ([], []) => .error .truncated
  | ([], _ :: _) => .error .malformed
  | ('0' :: _ :: _, _) => .error .malformed
  | (ds, rest) => readFraction negative ds rest

/-- Reads a number from its sign or first digit on. -/
def readNumber : Reader Number
  | '-' :: cs => readMagnitude true cs
  | cs => readMagnitude false cs

/-- The number as an integer between two bounds. -/
def Number.within (least greatest : Int) : Number → Except Fault Int
  | .int n => if least ≤ n ∧ n ≤ greatest then .ok n else .error .mismatched
  | .float => .error .mismatched

/-! ## Reading takes back what was written -/

theorem digits_append {ds rest : List Char} (all : ∀ c ∈ ds, c.isDigit = true)
    (stop : ∀ c cs, rest = c :: cs → c.isDigit = false) : digits (ds ++ rest) = (ds, rest) := by
  have take : rest.takeWhile Char.isDigit = [] := by
    cases rest with
    | nil => rfl
    | cons c cs => simp [stop c cs rfl]
  have drop : rest.dropWhile Char.isDigit = rest := by
    cases rest with
    | nil => rfl
    | cons c cs => simp [stop c cs rfl]
  simp [digits, List.takeWhile_append_of_pos all, List.dropWhile_append_of_pos all, take, drop]

end Turnstile.Json
