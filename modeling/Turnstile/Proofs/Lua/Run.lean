import Turnstile.Proofs.Lua.Dataset
import Turnstile.Server.Value

/-!
# How a body runs

A body runs on the keys and arguments of a request, which it finds in two tables of texts, and
on the dataset of a server at one point of time. `Lua.runBody` gives the value that it
returns, or why it fails, and the dataset after it. A value goes back to the client as a
value of the server (`Lua.Value.sent`), in which the client reads the reply (`Lua.answer?`).

What the thirteen bodies have no use for fails with `Fault.other`.
-/

namespace Turnstile.Lua

/-- Names with their values. -/
abbrev Names := List (String × Value)

namespace Names

/-- The keys and arguments of a request under their names. -/
@[simp] def ofRequest (keys args : List String) : Names :=
  [("KEYS", .table (keys.map Text.bytes)), ("ARGV", .table (args.map Text.bytes))]

/-- The value of a name. -/
@[simp] def find? : Names → String → Option Value
  | [], _ => none
  | (y, v) :: names, x => if x = y then some v else find? names x

end Names

namespace Value

/-- Whether a condition with this value holds. -/
@[simp] def holds : Value → Bool
  | nil | bool false => false
  | _ => true

/-- An entry of a table, counted from one. -/
@[simp] def item? (index : Nat) : Value → Option Value
  | table items =>
    match index with
    | 0 => some nil
    | i + 1 => some (items[i]?.elim nil text)
  | _ => none

/-- The entries of a table. -/
@[simp] def items? : Value → Option (List Bytes)
  | table items => some items
  | _ => none

/-- The bytes of a text. -/
@[simp] def text? : Value → Option Bytes
  | text b => some b
  | _ => none

@[simp] def number? : Value → Option Int
  | number n => some n
  | _ => none

/-- Whether a value is a table. Two tables are equal only if they are one and the same. -/
@[simp] def isTable : Value → Bool
  | table _ | okay => true
  | _ => false

/-- The word of a command that a value gives. -/
@[simp] def word? : Value → Option Bytes
  | text b => some b
  | number n => some (digits n)
  | _ => none

/-- The part of bytes from one place to another, both included and counted from one, or from
the end where they are negative. -/
def part (b : Bytes) (first last : Int) : Bytes :=
  let first := if first < 0 then max (b.length + first + 1) 1 else max first 1
  let last := if last < 0 then b.length + last + 1 else last
  (b.take last.toNat).drop (first - 1).toNat

end Value

section Evaluation

-- on a given body and given tables `simp` evaluates down to the commands

variable (names : Names)

/-- The value of an atom. -/
@[simp] def Atom.value? : Atom → Option Value
  | nil => some .nil
  | number n => some (.number n)
  | text s => some (.text (Text.bytes s))
  | name x => names.find? x
  | item table index => (names.find? table).bind (Value.item? index)

/-- The words that atoms give. -/
@[simp] def words? : List Atom → Option (List Bytes)
  | [] => some []
  | a :: atoms =>
    ((a.value? names).bind Value.word?).bind fun word => (words? atoms).map (word :: ·)

/-- The entries of a table, if one is named. -/
@[simp] def unpacked? : Option String → Option (List Bytes)
  | none => some []
  | some table => (names.find? table).bind Value.items?

/-- Evaluates an expression. -/
@[simp] def Expr.run (now : Nat) : Expr → Run Value
  | atom a => .ofOption (a.value? names)
  | size table =>
    .ofOption (((names.find? table).bind Value.items?).map fun items => .number items.length)
  | length a => .ofOption (((a.value? names).bind Value.text?).map fun b => .number b.length)
  | part a first last =>
    Run.andThen (last.run now) fun last => .ofOption <|
      ((a.value? names).bind Value.text?).bind fun b =>
        ((first.value? names).bind Value.number?).bind fun first =>
          last.number?.map fun last => .text (Value.part b first last)
  | toNumber a =>
    .ofOption (((a.value? names).bind Value.text?).bind fun b => (wholeNumber? b).map .number)
  | both left right =>
    Run.andThen (left.run now) fun v => if v.holds then right.run now else .give v
  | equal left right =>
    Run.andThen (left.run now) fun v =>
      Run.andThen (right.run now) fun w =>
        .ofOption (if v.isTable || w.isTable then none else some (.bool (v = w)))
  | greater left right =>
    Run.andThen (left.run now) fun v =>
      Run.andThen (right.run now) fun w => .ofOption <|
        v.number?.bind fun m => w.number?.map fun n => .bool (n < m)
  | call verb words unpacked =>
    Run.andThen (.ofOption (words? names words)) fun words =>
      Run.andThen (.ofOption (unpacked? names unpacked)) fun more => verb.run now (words ++ more)

end Evaluation

/-- Runs a body. -/
@[simp] def Body.run (now : Nat) : Body → Names → Run Value
  | ret e, names => e.run names now
  | act e rest, names => Run.andThen (e.run names now) fun _ => rest.run now names
  | bind x e rest, names => Run.andThen (e.run names now) fun v => rest.run now ((x, v) :: names)
  | branch condition inner rest, names =>
    Run.andThen (condition.run names now) fun v =>
      if v.holds then inner.run now names else rest.run now names

/-- Runs the body of a command on the keys and arguments of a request. -/
def runBody (c : Command) (now : Nat) (keys args : List String) : Run Value :=
  c.body.run now (.ofRequest keys args)

/-- What a server sends back for a value. -/
def Value.sent : Value → ServerValue
  | nil | bool false => .nil
  | bool true => .int 1
  | number n => .int n
  | text b => .bulk ⟨b.toArray⟩
  | table items => .array (items.map fun b => .bulk ⟨b.toArray⟩)
  | okay => .okay

/-- What a client makes of the end of a body that ran on keys, of which a wrong type is put
down to the first. -/
def answer? (keys : List String) : Except Fault Value → Option Answer
  | .ok v => v.sent.reply.toOption.map .ok
  | .error .wrongType => keys.head?.map fun key => .error (.wrongType key)
  | .error .other => none

end Turnstile.Lua
