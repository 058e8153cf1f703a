import Turnstile.Text.Decimal

/-!
# Bytes as text

Text travels as UTF-8. Not all bytes are a text: `exactText?` gives the text of those that
are, `Utf8Fault.first?` tells where the others go wrong first, and `lossyText` makes a text
of any bytes, in which each longest piece that could begin a character, but is none, has
become the replacement character.
-/

namespace Turnstile.Text

/-- The text of bytes that are those of one. -/
def exactText? (bytes : List UInt8) : Option String := String.fromUTF8? ⟨bytes.toArray⟩

/-! ## Bytes of a character -/

/-- The ranges of the bytes that may follow the first byte of a character, in order. They
leave out longer forms than needed, surrogates, and numbers beyond those of Unicode. -/
def following (first : UInt8) : List (UInt8 × UInt8) :=
  let any : UInt8 × UInt8 := (0x80, 0xBF)
  if first < 0xC2 then []
  else if first < 0xE0 then [any]
  else if first = 0xE0 then [(0xA0, 0xBF), any]
  else if first = 0xED then [(0x80, 0x9F), any]
  else if first < 0xF0 then [any, any]
  else if first = 0xF0 then [(0x90, 0xBF), any, any]
  else if first < 0xF4 then [any, any, any]
  else if first = 0xF4 then [(0x80, 0x8F), any, any]
  else []

/-- How many of the leading bytes lie in their ranges. -/
def matching : List (UInt8 × UInt8) → List UInt8 → Nat
  | r :: ranges, b :: bytes => if r.1 ≤ b ∧ b ≤ r.2 then matching ranges bytes + 1 else 0
  | _, _ => 0

/-- How many of the bytes after a first one belong to the same character or could. -/
def rowLength (first : UInt8) (rest : List UInt8) : Nat := matching (following first) rest

/-! ## A text of any bytes -/

/-- The characters of bytes, with replacement characters for what is none. -/
def lossyChars : List UInt8 → List Char
  | [] => []
  | first :: rest =>
    let length := rowLength first rest
    let piece := exactText? (first :: rest.take length)
    (piece.map String.toList).getD ['\uFFFD'] ++ lossyChars (rest.drop length)
termination_by bytes => bytes.length
decreasing_by simp only [List.length_drop, List.length_cons]; omega

/-- The text of bytes, with replacement characters for what is none. -/
def lossyText (bytes : List UInt8) : String := String.ofList (lossyChars bytes)

/-! ## What keeps bytes from being a text -/

/-- Bytes that are no character. -/
inductive Utf8Fault where
  /-- So many bytes from an index on could begin a character, but the next cannot go on. -/
  | malformed (index length : Nat)
  /-- The bytes end within the character that begins at an index. -/
  | truncated (index : Nat)
deriving DecidableEq, Repr

namespace Utf8Fault

/-- The first fault in bytes that follow `index` others. -/
def firstFrom? (index : Nat) : List UInt8 → Option Utf8Fault
  | [] => none
  | first :: rest =>
    let length := rowLength first rest
    if first < 0x80 ∨ following first ≠ [] ∧ (following first).length = length then
      firstFrom? (index + length + 1) (rest.drop length)
    else if following first ≠ [] ∧ rest.length = length then some (truncated index)
    else some (malformed index (length + 1))
termination_by bytes => bytes.length
decreasing_by simp only [List.length_drop, List.length_cons]; omega

/-- The first fault in bytes, if they are no text. -/
def first? (bytes : List UInt8) : Option Utf8Fault := firstFrom? 0 bytes

/-- The text of a fault. -/
def text : Utf8Fault → String
  | malformed index length =>
    "invalid utf-8 sequence of " ++ Decimal.ofNat length ++ " bytes from index " ++
      Decimal.ofNat index
  | truncated index => "incomplete utf-8 byte sequence from index " ++ Decimal.ofNat index

end Utf8Fault

end Turnstile.Text
