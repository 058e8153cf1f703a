import Turnstile.Server.Value
import Turnstile.Server.Wire.Intake
import Turnstile.Server.Wire.Mark
import Turnstile.Text.Blank

/-!
# Reading values from the wire

A client reads a value mark by mark and line by line from what it receives (`Wire.readReply`).
It finds the bytes malformed where a value has an unknown mark, a line does not say what it
should, a bulk text has no end of line, or values are nested too deep, and it tells at which
place. Messages that nobody asked for are passed over.
-/

namespace Turnstile.Wire

/-! ## Faults -/

/-- What keeps bytes from being read. -/
inductive Fault where
  /-- They end within a value. -/
  | truncated
  /-- They are no value. At a place there stands what was not expected, or there does not
  stand what was expected, or there is something to be said on it. -/
  | malformed (place : Nat) (unexpected expected messages : List String)
deriving DecidableEq, Repr

namespace Fault

/-- A fault with a message more, if that has not been said. -/
def say (message : String) : Fault → Fault
  | truncated => truncated
  | malformed place unexpected expected messages =>
    malformed place unexpected expected
      (if messages.contains message then messages else messages ++ [message])

/-- The text of what is malformed at a place. -/
def text (place : Nat) (unexpected expected messages : List String) : String :=
  let lines :=
    ("Parse error at " ++ Text.Decimal.ofNat place) ::
      (unexpected.map ("Unexpected " ++ ·) ++ expected.map ("Expected " ++ ·) ++ messages)
  String.join (lines.map (· ++ "\n"))

/-- A fault in reading as a fault of the server. -/
def serverFault : Fault → ServerFault
  | truncated => .connection "unexpected end of file"
  | malformed place unexpected expected messages =>
    .client "ParseError" "parse error" (some (text place unexpected expected messages))

/-- How a byte is shown. -/
def shownByte (b : UInt8) : String := "\x60" ++ Text.Decimal.ofNat b.toNat ++ "\x60"

/-- The fault that something is not expected, and so neither is the byte that is ready. -/
def unexpected (what : String) (i : Intake) : Fault :=
  let next := i.ready.head?.toList.map shownByte
  malformed i.place (if next.contains what then next else next ++ [what]) [] []

end Fault

/-! ## Pieces -/

/-- The outcome of reading: what was read and the intake after it. -/
abbrev Read (α : Type) := Except Fault (α × Intake)

namespace Read

variable {α β : Type}

/-- Reads on. -/
def andThen (r : Read α) (next : α → Intake → Read β) : Read β :=
  match r with
  | .error f => .error f
  | .ok (a, i) => next a i

/-- Makes something of what was read. -/
def map (f : α → β) (r : Read α) : Read β := r.andThen fun a i => .ok (f a, i)

/-- Makes something of what was read from a start on, or says what is wrong with it. -/
def check (start : Intake) (make : α → Except String β) (r : Read α) : Read β :=
  r.andThen fun a i =>
    match make a with
    | .ok b => .ok (b, i)
    | .error message => .error (.malformed (start.placeBefore i) [] [] [message])

end Read

/-- Reads a piece and makes something of it, or says what is not expected. Such a piece is refused
together with the byte that follows it. Where that byte has not been received, the piece is given
up, and the next one is read in its place. -/
def readExpected {α β : Type} (piece? : List UInt8 → Option (α × Nat))
    (make : α → Except String β) (i : Intake) : Read β :=
  match i.await piece? fun a => (make a).isOk with
  | none => .error .truncated
  | some (a, i) =>
    match make a with
    | .ok b => .ok (b, i)
    | .error what => .error (.unexpected what i)

/-- Reads a piece. -/
def readPiece {α : Type} (piece? : List UInt8 → Option (α × Nat)) : Intake → Read α :=
  readExpected piece? .ok

/-- The first byte. -/
def mark? : List UInt8 → Option (UInt8 × Nat)
  | b :: _ => some (b, 1)
  | [] => none

/-- The first line, and its size with its end. -/
def line? : List UInt8 → Option (List UInt8 × Nat)
  | 0x0D :: 0x0A :: _ => some ([], 2)
  | b :: rest => (line? rest).map fun found => (b :: found.1, found.2 + 1)
  | [] => none

/-- The first so many bytes. -/
def bytes? (size : Nat) (ready : List UInt8) : Option (List UInt8 × Nat) :=
  if size ≤ ready.length then some (ready.take size, size) else none

/-- The end of a line, or else how far on which byte stands in place of what. -/
def lineEnd? : List UInt8 → Option (Except (Nat × UInt8 × String) Unit × Nat)
  | 0x0D :: 0x0A :: _ => some (.ok (), 2)
  | 0x0D :: b :: _ => some (.error (1, b, "lf newline"), 0)
  | [0x0D] => none
  | b :: _ => some (.error (0, b, "crlf newline"), 0)
  | [] => none

/-! ## Lines and counted bytes -/

/-- The text of bytes, or what is wrong with them. -/
def textOf (bytes : List UInt8) : Except String String :=
  match Text.exactText? bytes with
  | some text => .ok text
  | none => .error (((Text.Utf8Fault.first? bytes).map Text.Utf8Fault.text).getD "")

/-- Reads a line of text. -/
def readLine (i : Intake) : Read String := (readPiece line? i).check i textOf

/-- Reads a line and makes something of it, or says what is wrong with it. -/
def readLineAs {α : Type} (make : String → Except String α) (i : Intake) : Read α :=
  (readLine i).check i make

/-- What was made of a line, or the message that it is not what it should be. -/
def expectLine {α : Type} (what : String) : Option α → Except String α
  | some a => .ok a
  | none => .error ("Expected " ++ what ++ ", got garbage")

/-- The number that a line is, perhaps between white space. -/
def intOf (line : String) : Except String Int :=
  expectLine "integer" (Text.Decimal.readInt64? (Text.trimmed line))

/-- Reads a line that is a number. -/
def readInt : Intake → Read Int := readLineAs intOf

/-- Reads a line that is a double, perhaps between white space. -/
def readDouble : Intake → Read Double :=
  readLineAs fun line =>
    match Double.ofText? (Text.trimmed line) with
    | some value => .ok value
    | none =>
      .error
        (if Text.isBlank line then "cannot parse float from empty string"
        else "invalid float literal")

/-- Reads a line that is a number of any size. -/
def readBigInt : Intake → Read Int :=
  readLineAs fun line => expectLine "bigint" (Text.Decimal.readSpacedInt? line.toList)

/-- Reads a line that is true or false. -/
def readBool : Intake → Read Bool :=
  readLineAs fun line => expectLine "boolean" ([("t", true), ("f", false)].lookup line)

/-- Reads the end of a line. -/
def readLineEnd (i : Intake) : Read Unit :=
  (readPiece lineEnd? i).andThen fun found i =>
    match found with
    | .ok () => .ok ((), i)
    | .error (distance, b, what) =>
      .error (.malformed (i.place + distance) [Fault.shownByte b] [what] [])

/-- Reads so many bytes and the end of their line. -/
def readBytes (size : Nat) (i : Intake) : Read (List UInt8) :=
  (readPiece (bytes? size) i).andThen fun bytes i => (readLineEnd i).map fun _ => bytes

/-- Reads a count and as many bytes, and makes a text of them. No bytes are as many as a
count below zero. -/
def readCountedText (i : Intake) : Read String :=
  (readInt i).andThen fun size i =>
    if size < 0 then .error .truncated else (readBytes size.toNat i).map Text.lossyText

/-- Reads a text behind the name of its format. -/
def readVerbatim (i : Intake) : Read ServerValue :=
  (readCountedText i).check i fun text =>
    let cs := text.toList
    match cs.dropWhile (· != ':') with
    | _ :: rest => .ok (.verbatim (String.ofList (cs.takeWhile (· != ':'))) (String.ofList rest))
    | [] => .error "parse error when decoding verbatim string"

/-! ## Values -/

/-- Reads so many items in a row. -/
def readItems {α : Type} (item : Intake → Read α) : Nat → Intake → Read (List α)
  | 0, i => .ok ([], i)
  | n + 1, i =>
    match item i with
    | .error f =>
      .error (f.say ("expected " ++ Text.Decimal.ofNat (n + 1) ++ " more elements"))
    | .ok (a, i) => (readItems item n i).map (a :: ·)

/-- Reads a value that may be missing: its count is below zero then. -/
def readCounted (value : Nat → Intake → Read ServerValue) (i : Intake) : Read ServerValue :=
  (readInt i).andThen fun count i => if count < 0 then .ok (.nil, i) else value count.toNat i

/-- The count of entries that a line is, or what is wrong with the line. A count below zero is
not expected, whichever kind of value the entries belong to. -/
def entryCountOf (line : List UInt8) : Except String (Except String Nat) :=
  match (textOf line).bind intOf with
  | .ok count =>
    if count < 0 then .error "Attribute key-value length is too large" else .ok (.ok count.toNat)
  | .error message => .ok (.error message)

/-- Reads a count of entries and what it leads to. -/
def readEntries (value : Nat → Intake → Read ServerValue) (i : Intake) : Read ServerValue :=
  ((readExpected line? entryCountOf i).check i id).andThen value

/-- The message that items are, of which the first is its kind. -/
def pushOf : List ServerValue → Except String ServerValue
  | .bulk kind :: items => (textOf kind.data.toList).map fun kind => .push kind items
  | .simple kind :: items => .ok (.push kind items)
  | _ => .error "parse error when decoding push"

/-- Reads a message that nobody asked for. It has no kind where it has no items. -/
def readPush (item : Intake → Read ServerValue) (i : Intake) : Read ServerValue :=
  (readInt i).andThen fun count i =>
    if count ≤ 0 then .ok (.push "" [], i)
    else (readItems item count.toNat i).check i pushOf

/-- The value with attributes that items are, of which the last is the value. -/
def attributedOf (items : List ServerValue) : ServerValue :=
  .attributed (items.getLast?.getD .nil) (ServerValue.entriesOf items.dropLast)

/-- Reads what follows a mark, with a way to read the items of a value. -/
def readMarked (item : Intake → Read ServerValue) (mark : Mark) (i : Intake) :
    Read ServerValue :=
  let items := readItems item
  match mark with
  | .status => (readLine i).map .status
  | .error => (readLine i).map fun line => .error (.ofLine line)
  | .int => (readInt i).map .int
  | .bulk =>
    readCounted (fun size i => (readBytes size i).map fun bytes => .bulk ⟨bytes.toArray⟩) i
  | .array => readCounted (fun length i => (items length i).map .array) i
  | .set => readCounted (fun length i => (items length i).map .set) i
  | .map =>
    readEntries
      (fun length i => (items (2 * length) i).map fun vs => .map (ServerValue.entriesOf vs)) i
  | .attributes => readEntries (fun length i => (items (2 * length + 1) i).map attributedOf) i
  | .push => readPush item i
  | .nil => (readLine i).map fun _ => .nil
  | .double => (readDouble i).map .double
  | .bool => (readBool i).map .bool
  | .bigInt => (readBigInt i).map .bigInt
  | .bulkError => (readCountedText i).map fun line => .error (.ofLine line)
  | .verbatim => readVerbatim i

/-- The mark that a byte is. A byte that is none is not expected. -/
def markOf (b : UInt8) : Except String Mark :=
  match Mark.ofByte? b with
  | some mark => .ok mark
  | none => .error (Fault.shownByte b)

/-- Reads a value in which values are nested to at most a depth. -/
def readValue : Nat → Intake → Read ServerValue
  | 0 => readExpected mark? fun _ => .error "Maximum recursion depth exceeded"
  | depth + 1 => fun i => (readExpected mark? markOf i).andThen (readMarked (readValue depth))

/-- How deep values may be nested. -/
def depthLimit : Nat := 100

/-- Reads values up to one that answers a command, of at most so many. -/
def readAnswer : Nat → Intake → Read ServerValue
  | 0, _ => .error .truncated
  | limit + 1, i =>
    (readValue depthLimit i).andThen fun v i =>
      match v with
      | .push .. => readAnswer limit i.settle
      | v => .ok (v, i.settle)

/-- Reads the reply to a command. There are not more values than bytes. -/
def readReply (i : Intake) : Read ServerValue :=
  readAnswer (i.ready.length + i.coming.length) i

end Turnstile.Wire
