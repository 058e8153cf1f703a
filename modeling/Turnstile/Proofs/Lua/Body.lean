import Turnstile.Script

/-!
# The bodies as programs

The bodies of the scripts use little of their language : a local name, a condition whose
branch returns, a few functions and calls of the server. `Lua.Body` is this fragment, and
`Command.body` gives each command its body in it. Written out, that is the text which a
server gets to run (`Command.source_body`).
-/

namespace Turnstile

namespace Lua

/-- The commands of a server that the bodies call. -/
inductive Verb where
  | set | get | pexpire | del
  | rpush | lpop | llen
  | zadd | zrange | zrem | zcard
deriving DecidableEq, Repr

/-- The name of a command. -/
def Verb.name : Verb → String
  | set => "set"
  | get => "get"
  | pexpire => "pexpire"
  | del => "del"
  | rpush => "rpush"
  | lpop => "lpop"
  | llen => "llen"
  | zadd => "zadd"
  | zrange => "zrange"
  | zrem => "zrem"
  | zcard => "zcard"

/-- An expression without parts. -/
inductive Atom where
  | nil
  | number (n : Nat)
  | text (s : String)
  | name (x : String)
  /-- The entry of a table, counted from one. -/
  | item (table : String) (index : Nat)
deriving DecidableEq, Repr

/-- An expression. -/
inductive Expr where
  | atom (a : Atom)
  /-- The number of entries of a table. -/
  | size (table : String)
  /-- The length of a text. -/
  | length (a : Atom)
  /-- The part of a text from one place to another, both included. -/
  | part (a first : Atom) (last : Expr)
  /-- The number that a text stands for. -/
  | toNumber (a : Atom)
  | both (left right : Expr)
  | equal (left right : Expr)
  | greater (left right : Expr)
  /-- A call of the server, where the entries of a table may follow the other words. -/
  | call (verb : Verb) (words : List Atom) (unpacked : Option String)
deriving DecidableEq, Repr

instance : Coe Atom Expr := ⟨Expr.atom⟩

/-- What is left to run. -/
inductive Body where
  | ret (e : Expr)
  | act (e : Expr) (rest : Body)
  /-- Gives a name to a value. -/
  | bind (x : String) (e : Expr) (rest : Body)
  /-- Runs the branch in place of the rest if a condition holds. -/
  | branch (condition : Expr) (inner rest : Body)
deriving DecidableEq, Repr

/-! ## Writing -/

/-- The text of an atom. -/
def Atom.shown : Atom → String
  | nil => "nil"
  | number n => toString n
  | text s => "'" ++ s ++ "'"
  | name x => x
  | item table index => table ++ "[" ++ toString index ++ "]"

namespace Expr

/-- How tightly the parts of an expression are bound together. -/
def rank : Expr → Nat
  | both .. => 0
  | equal .. | greater .. => 1
  | _ => 2

/-- The text of an operand, in brackets if it is not bound tightly enough. -/
def enclosed (least : Nat) (e : Expr) (shown : String) : String :=
  if e.rank < least then "(" ++ shown ++ ")" else shown

/-- The text of an expression. -/
def shown : Expr → String
  | atom a => a.shown
  | size table => "#" ++ table
  | length a => "string.len(" ++ a.shown ++ ")"
  | part a first last =>
    "string.sub(" ++ a.shown ++ ", " ++ first.shown ++ ", " ++ last.shown ++ ")"
  | toNumber a => "tonumber(" ++ a.shown ++ ")"
  | both l r => enclosed 0 l l.shown ++ " and " ++ enclosed 1 r r.shown
  | equal l r => enclosed 1 l l.shown ++ " == " ++ enclosed 2 r r.shown
  | greater l r => enclosed 1 l l.shown ++ " > " ++ enclosed 2 r r.shown
  | call verb words unpacked =>
    let unpacked := unpacked.toList.map fun table => "unpack(" ++ table ++ ")"
    "redis.call(" ++
      ", ".intercalate ((Atom.text verb.name).shown :: words.map Atom.shown ++ unpacked) ++ ")"

end Expr

namespace Body

/-- The lines of a body. -/
def lines : Body → List String
  | ret e => ["return " ++ e.shown]
  | act e rest => e.shown :: rest.lines
  | bind x e rest => ("local " ++ x ++ " = " ++ e.shown) :: rest.lines
  | branch condition inner rest =>
    ("if " ++ condition.shown ++ " then") :: inner.lines.map ("    " ++ ·) ++ "end" :: rest.lines

/-- The text of a body, which begins and ends with a line feed. -/
def source (b : Body) : String := "\n" ++ "\n".intercalate b.lines ++ "\n"

end Body

end Lua

/-! ## The thirteen bodies -/

namespace Command

open Lua

/-- A key of the request. -/
abbrev bodyKey (index : Nat) : Atom := .item "KEYS" index

/-- An argument of the request. -/
abbrev bodyArg (index : Nat) : Atom := .item "ARGV" index

/-- The body of a command as a program. -/
def body : Command → Body
  | acquire =>
    .branch (.call .set [bodyKey 1, bodyArg 1, .text "NX", .text "PX", bodyArg 2] none)
      (.ret (Atom.number 1))
      (.ret (Atom.number 0))
  | reenter =>
    .bind "holder" (.call .get [bodyKey 1] none)
      (.branch
        (.both (Atom.name "holder")
          (.equal (.part (.name "holder") (.number 1) (.length (bodyArg 1))) (bodyArg 1)))
        (.act (.call .pexpire [bodyKey 1, bodyArg 2] none) (.ret (Atom.number 1)))
        (.ret (Atom.number 0)))
  | renew =>
    .branch (.equal (.call .get [bodyKey 1] none) (bodyArg 1))
      (.act (.call .pexpire [bodyKey 1, bodyArg 2] none) (.ret (Atom.number 1)))
      (.ret (Atom.number 0))
  | release =>
    .branch (.equal (.call .get [bodyKey 1] none) (bodyArg 1))
      (.ret (.call .del [bodyKey 1] none))
      (.ret (Atom.number 0))
  | owner => .ret (.call .get [bodyKey 1] none)
  | push => .ret (.call .rpush [bodyKey 1, bodyArg 1] none)
  | pop => .ret (.call .lpop [bodyKey 1] none)
  | len => .ret (.call .llen [bodyKey 1] none)
  | delayedPush => .ret (.call .zadd [bodyKey 1, bodyArg 2, bodyArg 1] none)
  | delayedPop =>
    .bind "head" (.call .zrange [bodyKey 1, .number 0, .number 0, .text "WITHSCORES"] none)
      (.branch (.equal (.size "head") (Atom.number 0))
        (.ret Atom.nil)
        (.branch (.greater (.toNumber (.item "head" 2)) (.toNumber (bodyArg 1)))
          (.ret Atom.nil)
          (.act (.call .zrem [bodyKey 1, .item "head" 1] none) (.ret (Atom.item "head" 1)))))
  | delayedRemove => .ret (.call .zrem [bodyKey 1, bodyArg 1] none)
  | delayedLen => .ret (.call .zcard [bodyKey 1] none)
  | destroy => .ret (.call .del [] (some "KEYS"))

theorem lines_body (c : Command) : c.body.lines = c.lines := by
  cases c <;> rfl

/-- The program of a command is the body that its script carries. -/
theorem source_body (c : Command) : c.body.source = c.script.body := by
  rw [Body.source, lines_body]
  rfl

end Command

end Turnstile
