/-!
# Decimal numbers

Numbers travel to the store as decimal text. `ofNat` and `ofInt` write them and
`readInt64?` reads them back: an optional sign, then at least one digit and nothing else,
with a value that fits a signed word of 64 bits.
-/

namespace Turnstile.Text.Decimal

/-- The decimal text of a natural number. -/
def ofNat (n : Nat) : String := String.ofList (Nat.toDigits 10 n)

/-- The decimal text of an integer. -/
def ofInt : Int → String
  | .ofNat n => ofNat n
  | .negSucc n => "-" ++ ofNat (n + 1)

/-- The number that a nonempty row of digits stands for. -/
def readDigits? (cs : List Char) : Option Nat :=
  if cs ≠ [] ∧ cs.all Char.isDigit then some (Nat.ofDigitChars 10 cs 0) else none

/-- The integer that a text of an optional sign and digits stands for. -/
def readInt? : List Char → Option Int
  | '-' :: digits => (readDigits? digits).map fun n => -(n : Int)
  | '+' :: digits => (readDigits? digits).map fun n => (n : Int)
  | digits => (readDigits? digits).map fun n => (n : Int)

/-- The integer that a text of an optional sign and digits stands for, where underscores may
stand behind the first digit. -/
def readSpacedInt? (cs : List Char) : Option Int :=
  let unsigned :=
    match cs with
    | '-' :: rest => rest
    | '+' :: rest => rest
    | cs => cs
  if unsigned.head? = some '_' then none else readInt? (cs.filter (· != '_'))

/-- The integers of a signed word of 64 bits. -/
def fitsInt64 (n : Int) : Bool := -9223372036854775808 ≤ n && n ≤ 9223372036854775807

/-- The integer a text stands for, where it is one and fits 64 bits. -/
def readInt64? (s : String) : Option Int := (readInt? s.toList).filter fitsInt64

theorem isDigit_of_mem_toDigits {c : Char} {n : Nat} (h : c ∈ Nat.toDigits 10 n) :
    c.isDigit = true :=
  Nat.isDigit_of_mem_toDigits (by decide) (by decide) h

theorem toDigits_ne_nil (n : Nat) : Nat.toDigits 10 n ≠ [] := by
  rw [Nat.toDigits_eq_if (by decide)]
  split <;> simp

/-- Reading the digits of a number gives the number. -/
theorem readDigits?_toDigits (n : Nat) : readDigits? (Nat.toDigits 10 n) = some n := by
  have digits : (Nat.toDigits 10 n).all Char.isDigit = true :=
    List.all_eq_true.2 fun c => isDigit_of_mem_toDigits
  rw [readDigits?, if_pos ⟨toDigits_ne_nil n, digits⟩, Nat.ofDigitChars_ten_toDigits]

/-- A row of digits starts with no sign, so it is read as it stands. -/
theorem readInt?_of_isDigit {cs : List Char} (h : ∀ c ∈ cs, c.isDigit = true) :
    readInt? cs = (readDigits? cs).map fun n => (n : Int) := by
  match cs with
  | [] => rfl
  | '-' :: _ => exact absurd (h '-' (by simp)) (by decide)
  | '+' :: _ => exact absurd (h '+' (by simp)) (by decide)
  | c :: rest =>
    unfold readInt?
    split
    · next heq => obtain ⟨rfl, rfl⟩ := List.cons.inj heq; exact absurd (h '-' (by simp)) (by decide)
    · next heq => obtain ⟨rfl, rfl⟩ := List.cons.inj heq; exact absurd (h '+' (by simp)) (by decide)
    · rfl

/-- Reading what `ofNat` wrote gives the number back, where it fits. -/
theorem readInt64?_ofNat (n : Nat) (h : n ≤ 9223372036854775807) :
    readInt64? (ofNat n) = some (n : Int) := by
  have fits : fitsInt64 (n : Int) = true := by simp [fitsInt64]; omega
  simp [readInt64?, ofNat, readInt?_of_isDigit fun c => isDigit_of_mem_toDigits,
    readDigits?_toDigits, Option.filter, fits]

/-- A number that does not fit 64 bits is not read. -/
theorem readInt64?_ofNat_of_lt {n : Nat} (h : 9223372036854775807 < n) :
    readInt64? (ofNat n) = none := by
  have large : fitsInt64 (n : Int) = false := by
    simp [fitsInt64]
    omega
  simp [readInt64?, ofNat, readInt?_of_isDigit fun c => isDigit_of_mem_toDigits,
    readDigits?_toDigits, Option.filter, large]

end Turnstile.Text.Decimal
