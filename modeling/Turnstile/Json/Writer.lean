import Turnstile.Json.Text
import Turnstile.Text.Decimal

/-!
# Writing JSON

Values are written compactly, with no gap between their parts. A written value is a row of
characters, so that readers, which take rows of characters, can be compared with it.
-/

namespace Turnstile.Json

/-- A natural number. -/
def writeNat (n : Nat) : List Char := Nat.toDigits 10 n

/-- An integer. -/
def writeInt : Int → List Char
  | .ofNat n => writeNat n
  | .negSucc n => '-' :: writeNat (n + 1)

/-- A Boolean. -/
def writeBool : Bool → List Char
  | true => ['t', 'r', 'u', 'e']
  | false => ['f', 'a', 'l', 's', 'e']

/-- A value or `null`. -/
def writeOption {α : Type} (write : α → List Char) : Option α → List Char
  | some a => write a
  | none => ['n', 'u', 'l', 'l']

/-- Parts with a comma between each two. -/
def separated : List (List Char) → List Char
  | [] => []
  | [part] => part
  | part :: parts => part ++ ',' :: separated parts

/-- A list of written values. -/
def writeList (parts : List (List Char)) : List Char := '[' :: (separated parts ++ [']'])

/-- A member of an object with its written value. -/
def writeMember (member : String × List Char) : List Char :=
  writeText member.1 ++ ':' :: member.2

/-- An object with the given members in their order. -/
def writeObject (members : List (String × List Char)) : List Char :=
  '\x7b' :: (separated (members.map writeMember) ++ ['\x7d'])

end Turnstile.Json
