import Turnstile.Json.Text

/-!
# Skipping a value

The value of an unknown field is passed over without being built. It must be well-formed,
to any depth, but its numbers are not evaluated and the surrogates in its texts need not be
paired. `skipValue` walks the value with a machine that holds its spot and the brackets that
are open around it, and takes one character per step, so it needs no bound on the depth.
-/

namespace Turnstile.Json

open Text

/-- An open bracket. -/
inductive Bracket where
  | list
  | object
deriving DecidableEq, Repr

/-- Where a reader that skips a value stands. -/
inductive SkipSpot where
  /-- Before a value. -/
  | value
  /-- After an opening bracket, which may be closed at once. -/
  | opened
  /-- After a value inside a bracket. -/
  | after
  /-- Before the name of a member. -/
  | member
  /-- Before the colon of a member. -/
  | colon
  /-- Inside a word, of which these characters are left. -/
  | word (left : List Char)
  /-- Inside a text, which may be the name of a member. -/
  | text (isName : Bool)
  /-- After a backslash in a text. -/
  | escape (isName : Bool)
  /-- Before the last `left + 1` digits of an escape. -/
  | escapeDigits (isName : Bool) (left : Nat)
  /-- After the sign of a number. -/
  | sign
  /-- After a zero that starts a number. -/
  | zero
  /-- Inside the digits of a number. -/
  | whole
  /-- After the point of a number. -/
  | point
  /-- Inside the digits after the point. -/
  | decimals
  /-- After the `e` of a number. -/
  | exponent
  /-- After the sign of an exponent. -/
  | exponentSign
  /-- Inside the digits of an exponent. -/
  | exponentDigits
deriving DecidableEq, Repr

/-- What a reader that skips a value does at one character. -/
inductive SkipMove where
  | fail (fault : Fault)
  /-- Take the character. -/
  | go (spot : SkipSpot) (brackets : List Bracket)
  /-- Take the character, which ends the value that was to be skipped. -/
  | finish
  /-- Leave the character: the value ended before it. -/
  | finishBefore

namespace SkipMove

/-- The move that takes the last character of a value. -/
def complete : List Bracket → SkipMove
  | [] => finish
  | brackets => go .after brackets

/-- The move at the start of a value. -/
def atValue (brackets : List Bracket) (c : Char) : SkipMove :=
  if isGap c then go .value brackets
  else
    match c with
    | 'n' => go (.word ['u', 'l', 'l']) brackets
    | 't' => go (.word ['r', 'u', 'e']) brackets
    | 'f' => go (.word ['a', 'l', 's', 'e']) brackets
    | '-' => go .sign brackets
    | '0' => go .zero brackets
    | '"' => go (.text false) brackets
    | '[' => go .opened (.list :: brackets)
    | '\x7b' => go .opened (.object :: brackets)
    | c => if c.isDigit then go .whole brackets else fail .malformed

/-- The move where the name of a member must start. -/
def atMember (brackets : List Bracket) (c : Char) : SkipMove :=
  if isGap c then go .member brackets
  else if c = '"' then go (.text true) brackets
  else fail .malformed

/-- The move after a value inside the innermost of the open brackets. -/
def afterValue : List Bracket → Char → SkipMove
  | [], _ => finishBefore
  | b :: outer, c =>
    if isGap c then go .after (b :: outer)
    else
      match b, c with
      | .list, ',' => go .value (b :: outer)
      | .object, ',' => go .member (b :: outer)
      | .list, ']' => complete outer
      | .object, '\x7d' => complete outer
      | _, _ => fail .malformed

/-- The move after an opening bracket. -/
def afterOpening : List Bracket → Char → SkipMove
  | [], _ => fail .malformed
  | b :: outer, c =>
    if isGap c then go .opened (b :: outer)
    else
      match b, c with
      | .list, ']' => complete outer
      | .object, '\x7d' => complete outer
      | .list, c => atValue (b :: outer) c
      | .object, c => atMember (b :: outer) c

/-- The move that takes a digit, or else fails. -/
def needDigit (spot : SkipSpot) (brackets : List Bracket) (c : Char) : SkipMove :=
  if c.isDigit then go spot brackets else fail .malformed

/-- The move after a part of a number that an exponent may follow. -/
def orExponent (brackets : List Bracket) (c : Char) : SkipMove :=
  if c = 'e' ∨ c = 'E' then go .exponent brackets else afterValue brackets c

/-- The move after the whole part of a number. -/
def orPoint (brackets : List Bracket) (c : Char) : SkipMove :=
  if c = '.' then go .point brackets else orExponent brackets c

end SkipMove

open SkipMove in
/-- The move on the character `c`, which `rest` follows. -/
def SkipSpot.move (spot : SkipSpot) (brackets : List Bracket) (c : Char) (rest : List Char) :
    SkipMove :=
  match spot with
  | .value => atValue brackets c
  | .opened => afterOpening brackets c
  | .after => afterValue brackets c
  | .member => atMember brackets c
  | .colon =>
    if isGap c then go .colon brackets
    else if c = ':' then go .value brackets
    else fail .malformed
  | .word [] => fail .malformed
  | .word [w] => if c = w then complete brackets else fail .malformed
  | .word (w :: ws) => if c = w then go (.word ws) brackets else fail .malformed
  | .text isName =>
    if c = '"' then if isName then go .colon brackets else complete brackets
    else if c = '\\' then go (.escape isName) brackets
    else if c.toNat < 0x20 then fail .malformed
    else go (.text isName) brackets
  | .escape isName =>
    if c = 'u' then
      if hasFourBytes rest then go (.escapeDigits isName 3) brackets else fail .truncated
    else if (escapedChar? c).isSome then go (.text isName) brackets
    else fail .malformed
  | .escapeDigits isName left =>
    if (hexValue? c).isSome then
      match left with
      | 0 => go (.text isName) brackets
      | left + 1 => go (.escapeDigits isName left) brackets
    else fail .malformed
  | .sign => if c = '0' then go .zero brackets else needDigit .whole brackets c
  | .zero => if c.isDigit then fail .malformed else orPoint brackets c
  | .whole => if c.isDigit then go .whole brackets else orPoint brackets c
  | .point => needDigit .decimals brackets c
  | .decimals => if c.isDigit then go .decimals brackets else orExponent brackets c
  | .exponent =>
    if c = '+' ∨ c = '-' then go .exponentSign brackets else needDigit .exponentDigits brackets c
  | .exponentSign => needDigit .exponentDigits brackets c
  | .exponentDigits => if c.isDigit then go .exponentDigits brackets else afterValue brackets c

/-- What the end of the text means at a spot: a number that is complete may stand there if
no bracket is open, one that still lacks a digit is malformed, and all else is cut short. -/
def SkipSpot.atEnd (spot : SkipSpot) (brackets : List Bracket) : Except Fault (List Char) :=
  match spot with
  | .sign | .point | .exponent | .exponentSign => .error .malformed
  | .zero | .whole | .decimals | .exponentDigits =>
    if brackets.isEmpty then .ok [] else .error .truncated
  | _ => .error .truncated

/-- Skips the rest of a value from a spot inside it, and gives what follows it. -/
def skipFrom : SkipSpot → List Bracket → List Char → Except Fault (List Char)
  | spot, brackets, [] => spot.atEnd brackets
  | spot, brackets, c :: rest =>
    match spot.move brackets c rest with
    | .fail fault => .error fault
    | .go spot brackets => skipFrom spot brackets rest
    | .finish => .ok rest
    | .finishBefore => .ok (c :: rest)

/-- Skips one value, and gives what follows it. -/
def skipValue (cs : List Char) : Except Fault (List Char) := skipFrom .value [] cs

end Turnstile.Json
