/-!
# Marks of values

A value begins with a byte that tells its kind, its mark (`Mark.byte`). Each mark is told from
its byte (`Mark.ofByte?_byte`), and a byte that is no mark is none (`Mark.byte_of_ofByte?`).
-/

namespace Turnstile.Wire

/-- What kind of value follows. -/
inductive Mark where
  | status
  | error
  | int
  | bulk
  | array
  | set
  | map
  | attributes
  | push
  | nil
  | double
  | bool
  | bigInt
  | bulkError
  | verbatim
deriving DecidableEq, Repr

namespace Mark

/-- All marks. -/
def all : List Mark :=
  [status, error, int, bulk, array, set, map, attributes, push, nil, double, bool, bigInt,
    bulkError, verbatim]

/-- The character that stands for a mark. -/
def char : Mark → Char
  | status => '+'
  | error => '-'
  | int => ':'
  | bulk => '$'
  | array => '*'
  | set => '~'
  | map => '%'
  | attributes => '|'
  | push => '>'
  | nil => '_'
  | double => ','
  | bool => '#'
  | bigInt => '('
  | bulkError => '!'
  | verbatim => '='

/-- The byte that stands for a mark. -/
def byte (m : Mark) : UInt8 := m.char.toUInt8

/-- The mark that a byte stands for. -/
def ofByte? (b : UInt8) : Option Mark := all.find? fun m => m.byte == b

theorem ofByte?_byte (m : Mark) : ofByte? m.byte = some m := by
  cases m <;> decide

theorem byte_of_ofByte? {b : UInt8} {m : Mark} (h : ofByte? b = some m) : m.byte = b := by
  simpa using List.find?_some h

end Mark

end Turnstile.Wire
