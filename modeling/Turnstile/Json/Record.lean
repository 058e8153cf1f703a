import Turnstile.Json.Skip
import Turnstile.Json.Value

/-!
# Records

A record has named fields in a fixed order. It is read from an object, whose members may
come in any order, or from a list of the fields' values in their order. A known field may
be given once only; an unknown one is skipped. What a record lacks in the end is left to
its `finish`, which may fill it in or refuse.
-/

namespace Turnstile.Json

/-- A field of the records that are collected in a `σ`. -/
structure RecordField (σ : Type) where
  name : String
  /-- Whether the field has been given. -/
  isGiven : σ → Bool
  /-- Reads the field's value into the record so far. -/
  read : σ → Reader σ

/-- A field that is kept in an optional part of a record. -/
def RecordField.ofReader {σ α : Type} (name : String) (read : Reader α) (get : σ → Option α)
    (set : σ → α → σ) : RecordField σ where
  name := name
  isGiven s := (get s).isSome
  read s cs := do
    let (a, rest) ← read cs
    return (set s a, rest)

/-- What the name of a member calls for: a field that is given again is refused, and the
value of an unknown field is skipped. -/
def RecordField.onName {σ : Type} (fields : List (RecordField σ)) (name : String) (s : σ) :
    Except Fault (Reader σ) :=
  match fields.find? fun f => f.name == name with
  | some f => if f.isGiven s then .error .mismatched else .ok (f.read s)
  | none => .ok fun cs => do return (s, ← skipValue cs)

/-- Reads the values of fields in their order up to and with the closing bracket. A list
that ends early leaves the rest of the fields ungiven; one that is longer is refused. -/
def readElements {σ : Type} : List (RecordField σ) → Bool → σ → Reader σ
  | fields, isFirst, s, cs =>
    match skipGap cs with
    | [] => .error .truncated
    | ']' :: rest => .ok (s, rest)
    | c :: rest =>
      match fields with
      | [] => .error .malformed
      | f :: fields =>
        if isFirst then do
          let (s, rest) ← f.read s (c :: rest)
          readElements fields false s rest
        else if c = ',' then
          match skipGap rest with
          | [] => .error .truncated
          | ']' :: _ => .error .malformed
          | cs => do
            let (s, rest) ← f.read s cs
            readElements fields false s rest
        else .error .malformed

/-- Reads a record. -/
def readRecord {σ α : Type} (fields : List (RecordField σ)) (start : σ)
    (finish : σ → Except Fault α) : Reader α := fun cs =>
  match skipGap cs with
  | '\x7b' :: rest => do
    let (s, rest) ← readMembers (RecordField.onName fields) start rest
    return (← finish s, rest)
  | '[' :: rest => do
    let (s, rest) ← readElements fields true start rest
    return (← finish s, rest)
  | cs => .error (wrongKind cs)

/-- A part of a record that must have been given. -/
def required {α : Type} : Option α → Except Fault α
  | some a => .ok a
  | none => .error .mismatched

end Turnstile.Json
