import Turnstile.Json.Basic
import Turnstile.Text.Hexadecimal

/-!
# Quoted text in JSON

`readText` reads what follows an opening quote, up to and with the closing one, and
`writeText` writes a text between quotes. An escape `\u` with a leading surrogate must be
followed by one with a trailing surrogate, and the pair stands for one character; no other
surrogate may be written. Control characters must be escaped. Reading takes back what was
written (`readText_escaped`).
-/

namespace Turnstile.Json

open Text

/-- The character that a letter after a backslash stands for. -/
def escapedChar? : Char → Option Char
  | '"' => some '"'
  | '\\' => some '\\'
  | '/' => some '/'
  | 'b' => some '\x08'
  | 'f' => some '\x0c'
  | 'n' => some '\n'
  | 'r' => some '\r'
  | 't' => some '\t'
  | _ => none

/-- Whether a number is a surrogate that opens a pair. -/
def isLeading (n : Nat) : Bool := 0xD800 ≤ n && n ≤ 0xDBFF

/-- Whether a number is a surrogate that closes a pair. -/
def isTrailing (n : Nat) : Bool := 0xDC00 ≤ n && n ≤ 0xDFFF

/-- The character of a pair of surrogates. -/
def pairedChar (leading trailing : Nat) : Char :=
  Char.ofNat ((leading - 0xD800) * 0x400 + (trailing - 0xDC00) + 0x10000)

/-- Whether at least four bytes are left of a text in UTF-8, as many as the digits of an
escape take. -/
def hasFourBytes (cs : List Char) : Bool :=
  4 ≤ (cs.take 4).foldr (fun c size => c.utf8Size + size) 0

/-- Where a reader stands inside a quoted text. `leading` is a surrogate that still lacks
its partner. -/
inductive TextSpot where
  /-- Between characters. -/
  | plain
  /-- After a backslash. -/
  | escape
  /-- Before the last `left + 1` digits of an escape whose digits so far make `value`. -/
  | digits (leading : Option Nat) (left value : Nat)
  /-- After a leading surrogate: a backslash must follow. -/
  | partner (leading : Nat)
  /-- After that backslash: a `u` must follow. -/
  | partnerEscape (leading : Nat)
deriving DecidableEq, Repr

/-- What a reader of quoted text does with one character. -/
inductive TextMove where
  | fail (fault : Fault)
  /-- The text ends here. -/
  | close
  | go (spot : TextSpot)
  /-- One more character of the text is known. -/
  | emit (c : Char)

/-- The move after the last digit of an escape, whose value is `n`. -/
def TextMove.ofCode (leading : Option Nat) (n : Nat) : TextMove :=
  match leading with
  | some l => if isTrailing n then .emit (pairedChar l n) else .fail .malformed
  | none =>
    if isTrailing n then .fail .malformed
    else if isLeading n then .go (.partner n)
    else .emit (Char.ofNat n)

/-- The move on the character `c`, which `rest` follows. -/
def TextSpot.move (spot : TextSpot) (c : Char) (rest : List Char) : TextMove :=
  match spot with
  | .plain =>
    if c = '"' then .close
    else if c = '\\' then .go .escape
    else if c.toNat < 0x20 then .fail .malformed
    else .emit c
  | .escape =>
    if c = 'u' then
      if hasFourBytes rest then .go (.digits none 3 0) else .fail .truncated
    else
      match escapedChar? c with
      | some e => .emit e
      | none => .fail .malformed
  | .digits leading left value =>
    match hexValue? c with
    | none => .fail .malformed
    | some d =>
      match left with
      | 0 => .ofCode leading (value * 16 + d)
      | left + 1 => .go (.digits leading left (value * 16 + d))
  | .partner leading => if c = '\\' then .go (.partnerEscape leading) else .fail .malformed
  | .partnerEscape leading =>
    if c = 'u' then
      if hasFourBytes rest then .go (.digits (some leading) 3 0) else .fail .truncated
    else .fail .malformed

/-- Reads the rest of a quoted text from a spot inside it: its characters, and what follows
the closing quote. -/
def readTextFrom : TextSpot → List Char → Except Fault (List Char × List Char)
  | _, [] => .error .truncated
  | spot, c :: rest =>
    match spot.move c rest with
    | .fail fault => .error fault
    | .close => .ok ([], rest)
    | .go spot => readTextFrom spot rest
    | .emit e =>
      match readTextFrom .plain rest with
      | .error fault => .error fault
      | .ok (cs, rest) => .ok (e :: cs, rest)

/-- Reads what follows an opening quote. -/
def readText (cs : List Char) : Except Fault (String × List Char) :=
  match readTextFrom .plain cs with
  | .error fault => .error fault
  | .ok (text, rest) => .ok (String.ofList text, rest)

/-! ## Writing -/

/-- A character as it stands between quotes. -/
def escaped (c : Char) : List Char :=
  if c = '"' then ['\\', '"']
  else if c = '\\' then ['\\', '\\']
  else if c = '\x08' then ['\\', 'b']
  else if c = '\x0c' then ['\\', 'f']
  else if c = '\n' then ['\\', 'n']
  else if c = '\r' then ['\\', 'r']
  else if c = '\t' then ['\\', 't']
  else if c.toNat < 0x20 then
    ['\\', 'u', '0', '0', hexDigit (c.toNat / 16), hexDigit (c.toNat % 16)]
  else [c]

/-- A text between quotes. -/
def writeText (s : String) : List Char := '"' :: (s.toList.flatMap escaped ++ ['"'])

/-! ## Reading takes back what was written -/

theorem readTextFrom_escaped (c : Char) (rest : List Char) :
    readTextFrom .plain (escaped c ++ rest) =
      match readTextFrom .plain rest with
      | .error fault => .error fault
      | .ok (cs, rest) => .ok (c :: cs, rest) := by
  unfold escaped
  split
  · subst_vars; simp [readTextFrom, TextSpot.move, escapedChar?]
  split
  · subst_vars; simp [readTextFrom, TextSpot.move, escapedChar?]
  split
  · subst_vars; simp [readTextFrom, TextSpot.move, escapedChar?]
  split
  · subst_vars; simp [readTextFrom, TextSpot.move, escapedChar?]
  split
  · subst_vars; simp [readTextFrom, TextSpot.move, escapedChar?]
  split
  · subst_vars; simp [readTextFrom, TextSpot.move, escapedChar?]
  split
  · subst_vars; simp [readTextFrom, TextSpot.move, escapedChar?]
  split
  · rename_i h
    have high := hexValue?_hexDigit (c.toNat / 16) (by omega)
    have low := hexValue?_hexDigit (c.toNat % 16) (by omega)
    have highSize := utf8Size_hexDigit (c.toNat / 16) (by omega)
    have lowSize := utf8Size_hexDigit (c.toNat % 16) (by omega)
    have four : hasFourBytes ('0' :: '0' :: hexDigit (c.toNat / 16) ::
        hexDigit (c.toNat % 16) :: rest) = true := by
      simp [hasFourBytes, highSize, lowSize]
      decide
    have zero : hexValue? '0' = some 0 := by decide
    have value : c.toNat / 16 * 16 + c.toNat % 16 = c.toNat := by omega
    have trailing : isTrailing c.toNat = false := by simp [isTrailing]; omega
    have leading : isLeading c.toNat = false := by simp [isLeading]; omega
    simp [readTextFrom, TextSpot.move, TextMove.ofCode, four, zero, high, low, value, trailing,
      leading]
  · rename_i quote slash _ _ _ _ _ low
    simp [readTextFrom, TextSpot.move, quote, slash, low]

theorem readTextFrom_flatMap_escaped (cs rest : List Char) :
    readTextFrom .plain (cs.flatMap escaped ++ '"' :: rest) = .ok (cs, rest) := by
  induction cs with
  | nil => simp [readTextFrom, TextSpot.move]
  | cons c cs ih => simp [readTextFrom_escaped, ih]

/-- Reading a written text gives the text. -/
theorem readText_escaped (s : String) (rest : List Char) :
    readText (s.toList.flatMap escaped ++ '"' :: rest) = .ok (s, rest) := by
  simp [readText, readTextFrom_flatMap_escaped]

end Turnstile.Json
