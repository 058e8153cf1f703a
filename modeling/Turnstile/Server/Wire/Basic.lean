import Turnstile.Server.Wire.Mark
import Turnstile.Text.Decimal

/-!
# The wire form of values

A server writes a value as bytes: a mark for its kind, a line, and for bulk texts and arrays
what the line counts (`WireValue.encode`).
-/

namespace Turnstile

/-- A value as a server writes it. -/
inductive WireValue where
  | nil
  | int (value : Int)
  | status (line : String)
  | error (line : String)
  | bulk (bytes : ByteArray)
  | array (items : List WireValue)

instance : Inhabited WireValue := ⟨.nil⟩

namespace Wire

/-- The end of a line. -/
def lineEnd : List UInt8 := [0x0D, 0x0A]

/-- A line behind a mark. -/
def markedLine (mark : Mark) (line : String) : List UInt8 :=
  mark.byte :: (line.toUTF8.data.toList ++ lineEnd)

end Wire

mutual

/-- The bytes of a value. -/
def WireValue.encode : WireValue → List UInt8
  | .nil => Wire.markedLine .bulk "-1"
  | .int n => Wire.markedLine .int (Text.Decimal.ofInt n)
  | .status line => Wire.markedLine .status line
  | .error line => Wire.markedLine .error line
  | .bulk bytes =>
    Wire.markedLine .bulk (Text.Decimal.ofNat bytes.size) ++ (bytes.data.toList ++ Wire.lineEnd)
  | .array items => Wire.markedLine .array (Text.Decimal.ofNat items.length) ++ encodeEach items

/-- The bytes of values in a row. -/
def encodeEach : List WireValue → List UInt8
  | [] => []
  | v :: vs => v.encode ++ encodeEach vs

end

end Turnstile
