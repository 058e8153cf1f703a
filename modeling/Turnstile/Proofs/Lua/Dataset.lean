import Mathlib.Data.List.Sort
import Mathlib.Logic.Function.Basic
import Turnstile.Proofs.Lua.Body
import Turnstile.Proofs.Text.ByteOrder
import Turnstile.Text.Utf8
import Turnstile.Time

/-!
# What the commands of a server do

A server keeps bytes, not texts. A `Lua.Dataset` is what it has at one point of time : the
live keys, each with a value and perhaps the point of time at which it expires. The members
of a sorted set are in the order of their scores, and among equal scores in that of their
bytes. `Lua.Verb.run` is what a command does and what the calling body gets, as the manual of
the server has it : a nil reply is false, and a collection that becomes empty goes with its
key.

Scores are whole numbers that a double stands for exactly, which all are whose absolute value
is at most `2 ^ 53`. A command that is called in another way than the bodies do, or with
numbers beyond these, fails with `Fault.other`.
-/

namespace Turnstile.Lua

abbrev Bytes := List UInt8

/-! ## Values -/

/-- A value of a body. -/
inductive Value where
  | nil
  | bool (b : Bool)
  | number (n : Int)
  | text (b : Bytes)
  | table (items : List Bytes)
  /-- A status reply, which is a table of its own kind. -/
  | okay
deriving DecidableEq, Repr

/-- Why a command or a body fails. -/
inductive Fault where
  /-- The key holds a value of another kind than the command works on. -/
  | wrongType
  | other
deriving DecidableEq, Repr

/-! ## Numbers in bytes -/

/-- The bytes of an integer. -/
def digits (n : Int) : Bytes := Text.bytes (Text.Decimal.ofInt n)

/-- The integer of 64 bits that is written just so : with no plus sign and no needless zero. -/
def exactInt? (b : Bytes) : Option Int :=
  (Text.exactText? b).bind fun s =>
    (Text.Decimal.readInt64? s).filter fun n => Text.Decimal.ofInt n = s

/-- Whether a whole number is one of those of which each is a double. -/
def isExact (n : Int) : Bool := n.natAbs ≤ 2 ^ 53

/-- The whole number that bytes stand for, where a double does. -/
def wholeNumber? (b : Bytes) : Option Int :=
  (Text.exactText? b).bind fun s => (Text.Decimal.readInt? s.toList).filter isExact

/-! ## Sorted sets -/

/-- A member of a sorted set. -/
structure Ranked where
  score : Int
  member : Bytes
deriving DecidableEq, Repr

/-- A member comes before another by its score, and among equal scores by its bytes. -/
def Ranked.AtMost (a b : Ranked) : Prop :=
  a.score < b.score ∨ a.score = b.score ∧ a.member ≤ b.member

instance : DecidableRel Ranked.AtMost := fun _ _ => inferInstanceAs (Decidable (_ ∨ _))

/-- The members but one. -/
def without (member : Bytes) (set : List Ranked) : List Ranked := set.filter (·.member ≠ member)

/-- Whether there is a member. -/
def hasMember (member : Bytes) (set : List Ranked) : Bool := set.any (·.member = member)

/-- Gives a member a score, in place of the one it may have had. -/
def ranked (score : Int) (member : Bytes) (set : List Ranked) : List Ranked :=
  (without member set).orderedInsert Ranked.AtMost ⟨score, member⟩

/-! ## Datasets -/

/-- What a key holds. -/
inductive Data where
  | text (b : Bytes)
  | list (items : List Bytes)
  | sorted (set : List Ranked)
deriving DecidableEq, Repr

/-- Whether a value is a collection without elements. -/
def Data.isEmptyCollection : Data → Bool
  | text _ => false
  | list items => items.isEmpty
  | sorted set => set.isEmpty

/-- A value with the point of time at which it expires. -/
structure Record where
  data : Data
  expiresAt : Option Nat
deriving DecidableEq, Repr

/-- The live keys. -/
abbrev Dataset := Bytes → Option Record

/-- What may fail, and in any case may change a dataset. -/
abbrev Run (α : Type) := Dataset → Except Fault α × Dataset

namespace Run

variable {α β : Type}

/-- Changes nothing. -/
@[simp] def give (a : α) : Run α := fun d => (.ok a, d)

/-- Fails, and changes nothing. -/
@[simp] def fail (e : Fault) : Run α := fun d => (.error e, d)

/-- Goes on unless it failed. -/
@[simp] def andThen (m : Run α) (f : α → Run β) : Run β := fun d =>
  match m d with
  | (.ok a, d) => f a d
  | (.error e, d) => (.error e, d)

/-- Fails where there is nothing. -/
@[simp] def ofOption : Option α → Run α
  | some a => give a
  | none => fail .other

end Run

namespace Dataset

/-- Stores a value, unless it is a collection without elements : then the key goes. -/
def store (d : Dataset) (key : Bytes) (r : Record) : Dataset :=
  Function.update d key (if r.data.isEmptyCollection then none else some r)

/-- Deletes keys one after the other, and counts those that there were. -/
def delete : List Bytes → Dataset → Nat × Dataset
  | [], d => (0, d)
  | key :: keys, d =>
    match d key with
    | some _ =>
      let (count, d) := delete keys (Function.update d key none)
      (count + 1, d)
    | none => delete keys d

end Dataset

/-! ## Commands -/

/-- The point of time that is so many milliseconds from now, and not before, if in
milliseconds it still fits a word of 64 bits. -/
def expiry? (now : Nat) (millis : Int) : Option Nat :=
  let t := now + Time.ofMillis millis.toNat
  if Text.Decimal.fitsInt64 (Time.millis t) then some t else none

/-- `SET key value NX PX millis` -/
def set (now : Nat) (key value millis : Bytes) : Run Value := fun d =>
  match ((exactInt? millis).filter (0 < ·)).bind (expiry? now), d key with
  | none, _ => (.error .other, d)
  | some _, some _ => (.ok (.bool false), d)
  | some t, none => (.ok .okay, Function.update d key (some ⟨.text value, some t⟩))

/-- `GET key` -/
def get (key : Bytes) : Run Value := fun d =>
  match d key with
  | none => (.ok (.bool false), d)
  | some ⟨.text value, _⟩ => (.ok (.text value), d)
  | some _ => (.error .wrongType, d)

/-- `PEXPIRE key millis`. The key goes if the time is not in the future. -/
def pexpire (now : Nat) (key millis : Bytes) : Run Value := fun d =>
  match (exactInt? millis).bind (expiry? now), d key with
  | none, _ => (.error .other, d)
  | some _, none => (.ok (.number 0), d)
  | some t, some r =>
    (.ok (.number 1), Function.update d key (if t ≤ now then none else some ⟨r.data, some t⟩))

/-- `DEL key ..` -/
def del (keys : List Bytes) : Run Value := fun d =>
  let (count, d) := d.delete keys
  (.ok (.number count), d)

/-- `RPUSH key value` -/
def rpush (key value : Bytes) : Run Value := fun d =>
  match d key with
  | none => (.ok (.number 1), d.store key ⟨.list [value], none⟩)
  | some ⟨.list items, t⟩ =>
    (.ok (.number (items ++ [value]).length), d.store key ⟨.list (items ++ [value]), t⟩)
  | some _ => (.error .wrongType, d)

/-- `LPOP key` -/
def lpop (key : Bytes) : Run Value := fun d =>
  match d key with
  | none => (.ok (.bool false), d)
  | some ⟨.list [], _⟩ => (.ok (.bool false), d)
  | some ⟨.list (first :: items), t⟩ => (.ok (.text first), d.store key ⟨.list items, t⟩)
  | some _ => (.error .wrongType, d)

/-- `LLEN key` -/
def llen (key : Bytes) : Run Value := fun d =>
  match d key with
  | none => (.ok (.number 0), d)
  | some ⟨.list items, _⟩ => (.ok (.number items.length), d)
  | some _ => (.error .wrongType, d)

/-- `ZADD key score member` -/
def zadd (key score member : Bytes) : Run Value := fun d =>
  match wholeNumber? score with
  | none => (.error .other, d)
  | some n =>
    match d key with
    | none => (.ok (.number 1), d.store key ⟨.sorted (ranked n member []), none⟩)
    | some ⟨.sorted set, t⟩ =>
      (.ok (.number (if hasMember member set then 0 else 1)),
        d.store key ⟨.sorted (ranked n member set), t⟩)
    | some _ => (.error .wrongType, d)

/-- `ZRANGE key 0 0 WITHSCORES` -/
def zfirst (key : Bytes) : Run Value := fun d =>
  match d key with
  | none => (.ok (.table []), d)
  | some ⟨.sorted [], _⟩ => (.ok (.table []), d)
  | some ⟨.sorted (first :: _), _⟩ => (.ok (.table [first.member, digits first.score]), d)
  | some _ => (.error .wrongType, d)

/-- `ZREM key member` -/
def zrem (key member : Bytes) : Run Value := fun d =>
  match d key with
  | none => (.ok (.number 0), d)
  | some ⟨.sorted set, t⟩ =>
    if hasMember member set then
      (.ok (.number 1), d.store key ⟨.sorted (without member set), t⟩)
    else (.ok (.number 0), d)
  | some _ => (.error .wrongType, d)

/-- `ZCARD key` -/
def zcard (key : Bytes) : Run Value := fun d =>
  match d key with
  | none => (.ok (.number 0), d)
  | some ⟨.sorted set, _⟩ => (.ok (.number set.length), d)
  | some _ => (.error .wrongType, d)

/-- What a command does with the words after its name. -/
@[simp] def Verb.run (now : Nat) : Verb → List Bytes → Run Value
  | .set, [key, value, nx, px, millis] =>
    if nx = Text.bytes "NX" ∧ px = Text.bytes "PX" then Lua.set now key value millis
    else Run.fail .other
  | .get, [key] => Lua.get key
  | .pexpire, [key, millis] => Lua.pexpire now key millis
  | .del, key :: keys => Lua.del (key :: keys)
  | .rpush, [key, value] => Lua.rpush key value
  | .lpop, [key] => Lua.lpop key
  | .llen, [key] => Lua.llen key
  | .zadd, [key, score, member] => Lua.zadd key score member
  | .zrange, [key, first, last, scores] =>
    if first = digits 0 ∧ last = digits 0 ∧ scores = Text.bytes "WITHSCORES" then Lua.zfirst key
    else Run.fail .other
  | .zrem, [key, member] => Lua.zrem key member
  | .zcard, [key] => Lua.zcard key
  | _, _ => Run.fail .other

end Turnstile.Lua
