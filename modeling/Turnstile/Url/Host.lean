import Turnstile.Text.Hexadecimal

/-!
# Hosts of a URL

A host goes by a name or, between brackets, by an IP address of version 6. Such an address
has eight pieces of 16 bits. One gap, written as two colons, may stand for pieces that are
zero, and the last two pieces may be written as an address of version 4.
-/

namespace Turnstile.Url

/-- Whether a text is a piece: up to four hexadecimal digits. -/
def isPiece (cs : List Char) : Bool :=
  1 ≤ cs.length && cs.length ≤ 4 && cs.all fun c => (Text.hexValue? c).isSome

/-- Whether a text is a number of 8 bits without needless zeros. -/
def isOctet (cs : List Char) : Bool :=
  1 ≤ cs.length && cs.all Char.isDigit && (cs.length == 1 || cs.head? != some '0') &&
    Nat.ofDigitChars 10 cs 0 ≤ 255

/-- Whether a text is an address of version 4. -/
def isIpv4 (cs : List Char) : Bool :=
  let parts := cs.splitOn '.'
  parts.length == 4 && parts.all isOctet

/-- How many pieces a row of groups makes. Only the last may be an address of version 4. -/
def pieceCount? : List (List Char) → Option Nat
  | [] => some 0
  | [group] => if isPiece group then some 1 else if isIpv4 group then some 2 else none
  | group :: groups => if isPiece group then (pieceCount? groups).map (· + 1) else none

/-- The groups between the colons of a text. -/
def groups (cs : List Char) : List (List Char) := if cs = [] then [] else cs.splitOn ':'

/-- What stands before and behind the first gap. -/
def splitGap? : List Char → Option (List Char × List Char)
  | ':' :: ':' :: rest => some ([], rest)
  | c :: rest => (splitGap? rest).map fun parts => (c :: parts.1, parts.2)
  | [] => none

/-- Whether a text is an address of version 6. A gap stands for one piece at least. -/
def isIpv6 (cs : List Char) : Bool :=
  match splitGap? cs with
  | none => pieceCount? (groups cs) == some 8
  | some (front, back) =>
    (groups front).all isPiece &&
      match pieceCount? (groups back) with
      | some n => (groups front).length + n ≤ 7
      | none => false

/-- Characters that no name holds. -/
def isForbidden (c : Char) : Bool :=
  ['\x00', '\t', '\n', '\r', ' ', '#', '/', ':', '<', '>', '?', '@', '[', '\\', ']', '^',
    '|'].contains c

/-- Whether a text, which may be empty, can name a host. -/
def isHost : List Char → Bool
  | '[' :: rest => rest.getLast? == some ']' && isIpv6 rest.dropLast
  | cs => !cs.any isForbidden

/-- Divides a text at the first colon that is not between brackets. -/
def splitHost (inside : Bool) : List Char → List Char × List Char
  | [] => ([], [])
  | c :: rest =>
    if c = ':' ∧ inside = false then ([], c :: rest)
    else
      let (host, rest) := splitHost (if c = '[' then true else if c = ']' then false else inside) rest
      (c :: host, rest)

end Turnstile.Url
