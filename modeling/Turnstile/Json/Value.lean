import Turnstile.Json.Number
import Turnstile.Json.Text

/-!
# Readers of single values

Each reader here takes a value of one kind: a text, an integer between two bounds, a
Boolean, a value or `null`, a list, or the members of an object. A value of another kind is
refused, but a scalar only after it was itself read without a problem (`wrongKind`).

`readMembers` is the one reader of objects. It hands each name to `onName`, which may refuse
it before the colon is read, and else gives the reader of the member's value.
-/

namespace Turnstile.Json

/-- The problem that a reading found, or, where it found none, that it was of the wrong
kind. -/
def faultOf {α : Type} : Except Fault α → Fault
  | .error fault => fault
  | .ok _ => .mismatched

/-- The problem of a value that is of the wrong kind for its place. A scalar is read
first. -/
def wrongKind : List Char → Fault
  | 'n' :: rest => faultOf (word ['u', 'l', 'l'] rest)
  | 't' :: rest => faultOf (word ['r', 'u', 'e'] rest)
  | 'f' :: rest => faultOf (word ['a', 'l', 's', 'e'] rest)
  | '"' :: rest => faultOf (readText rest)
  | '[' :: _ => .mismatched
  | '\x7b' :: _ => .mismatched
  | [] => .truncated
  | c :: rest =>
    if c = '-' ∨ c.isDigit then faultOf (readNumber (c :: rest)) else .malformed

/-! ## Scalars -/

/-- Reads a text. -/
def readString : Reader String := fun cs =>
  match skipGap cs with
  | '"' :: rest => readText rest
  | cs => .error (wrongKind cs)

/-- Reads an integer between two bounds. -/
def readInt (least greatest : Int) : Reader Int := fun cs =>
  match skipGap cs with
  | [] => .error .truncated
  | c :: rest =>
    if c = '-' ∨ c.isDigit then do
      let (number, rest) ← readNumber (c :: rest)
      let n ← number.within least greatest
      return (n, rest)
    else .error (wrongKind (c :: rest))

/-- Reads a natural number up to a bound. -/
def readNat (greatest : Nat) : Reader Nat := fun cs => do
  let (n, rest) ← readInt 0 greatest cs
  return (n.toNat, rest)

/-- Reads a Boolean. -/
def readBool : Reader Bool := fun cs =>
  match skipGap cs with
  | 't' :: rest => do return (true, ← word ['r', 'u', 'e'] rest)
  | 'f' :: rest => do return (false, ← word ['a', 'l', 's', 'e'] rest)
  | cs => .error (wrongKind cs)

/-- Reads `null` or a value. -/
def readOption {α : Type} (read : Reader α) : Reader (Option α) := fun cs =>
  match skipGap cs with
  | 'n' :: rest => do return (none, ← word ['u', 'l', 'l'] rest)
  | cs => do
    let (a, rest) ← read cs
    return (some a, rest)

/-! ## Lists -/

/-- Reads items up to and with the closing bracket, from the start of an item on. At most
`fuel` items are read. -/
def readItems {α : Type} (read : Reader α) : Nat → Reader (List α)
  | 0, _ => .error .truncated
  | fuel + 1, cs => do
    let (a, cs) ← read cs
    match skipGap cs with
    | [] => .error .truncated
    | ']' :: rest => return ([a], rest)
    | ',' :: rest =>
      match skipGap rest with
      | [] => .error .truncated
      | ']' :: _ => .error .malformed
      | cs => do
        let (as, rest) ← readItems read fuel cs
        return (a :: as, rest)
    | _ :: _ => .error .malformed

/-- Reads a list. -/
def readList {α : Type} (read : Reader α) : Reader (List α) := fun cs =>
  match skipGap cs with
  | '[' :: rest =>
    match skipGap rest with
    | [] => .error .truncated
    | ']' :: rest => .ok ([], rest)
    | cs => readItems read cs.length cs
  | cs => .error (wrongKind cs)

/-! ## Objects -/

/-- Reads the colon after a name. -/
def readColon (cs : List Char) : Except Fault (List Char) :=
  match skipGap cs with
  | [] => .error .truncated
  | ':' :: rest => .ok rest
  | _ :: _ => .error .malformed

/-- Reads members up to and with the closing brace, from the first character of a name on.
At most `fuel` members are read. -/
def readMembersFrom {σ : Type} (onName : String → σ → Except Fault (Reader σ)) :
    Nat → σ → Reader σ
  | 0, _, _ => .error .truncated
  | fuel + 1, state, cs => do
    let (name, cs) ← readText cs
    let read ← onName name state
    let (state, cs) ← read (← readColon cs)
    match skipGap cs with
    | [] => .error .truncated
    | '\x7d' :: rest => return (state, rest)
    | ',' :: rest =>
      match skipGap rest with
      | [] => .error .truncated
      | '"' :: rest => readMembersFrom onName fuel state rest
      | _ :: _ => .error .malformed
    | _ :: _ => .error .malformed

/-- Reads the members of an object, from what follows the opening brace on. -/
def readMembers {σ : Type} (onName : String → σ → Except Fault (Reader σ)) (start : σ) :
    Reader σ := fun cs =>
  match skipGap cs with
  | [] => .error .truncated
  | '\x7d' :: rest => .ok (start, rest)
  | '"' :: rest => readMembersFrom onName rest.length start rest
  | _ :: _ => .error .malformed

/-- Reads an object whose values are of one kind, as its members in order. -/
def readEntries {α : Type} (read : Reader α) : Reader (List (String × α)) := fun cs =>
  match skipGap cs with
  | '\x7b' :: rest =>
    readMembers (fun name entries => .ok fun cs => do
      let (a, rest) ← read cs
      return (entries ++ [(name, a)], rest)) [] rest
  | cs => .error (wrongKind cs)

end Turnstile.Json
