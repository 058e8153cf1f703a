import Turnstile.Double.Text
import Turnstile.Server.Fault
import Turnstile.Text.Utf8

/-!
# What a server sends

A server sends values of many kinds. Only nil, integers and texts are replies of scripts;
any other value is refused with its shown form. An error anywhere inside a value, the
leftmost if there are several, makes the whole value an error (`ServerValue.checked`).
-/

namespace Turnstile

/-- A value from a server. -/
inductive ServerValue where
  | nil
  | int (value : Int)
  | okay
  | simple (text : String)
  | bulk (bytes : ByteArray)
  | array (items : List ServerValue)
  | set (items : List ServerValue)
  | map (entries : List (ServerValue × ServerValue))
  /-- A value with attributes. -/
  | attributed (data : ServerValue) (attributes : List (ServerValue × ServerValue))
  | bool (value : Bool)
  | double (value : Double)
  | bigInt (value : Int)
  /-- A text in a format. -/
  | verbatim (format text : String)
  /-- A message of a kind that nobody asked for. -/
  | push (kind : String) (items : List ServerValue)
  | error (error : ServerError)

namespace ServerValue

instance : Inhabited ServerValue := ⟨nil⟩

/-- The value of a status line. -/
def status (text : String) : ServerValue := if text = "OK" then okay else simple text

/-- Values as keys and values in turn. -/
def entriesOf : List ServerValue → List (ServerValue × ServerValue)
  | k :: v :: rest => (k, v) :: entriesOf rest
  | _ => []

/-! ## Errors inside a value -/

mutual

/-- The leftmost error in a value. The attributes of a value come after it. -/
def error? : ServerValue → Option ServerError
  | error e => some e
  | array items => errorIn items
  | set items => errorIn items
  | map entries => errorInEntries entries
  | attributed data attributes => data.error? <|> errorInEntries attributes
  | push _ items => errorIn items
  | _ => none

/-- The leftmost error in values. -/
def errorIn : List ServerValue → Option ServerError
  | [] => none
  | v :: vs => v.error? <|> errorIn vs

/-- The leftmost error in pairs of values. -/
def errorInEntries : List (ServerValue × ServerValue) → Option ServerError
  | [] => none
  | (k, v) :: entries => k.error? <|> v.error? <|> errorInEntries entries

end

/-- A value without errors, or its leftmost error. -/
def checked (v : ServerValue) : Except ServerFault ServerValue :=
  match v.error? with
  | some e => .error (.signalled e)
  | none => .ok v

/-! ## The shown form -/

/-- Bytes as they are shown: a text where they are one. -/
def shownBytes (bytes : ByteArray) : String :=
  match String.fromUTF8? bytes with
  | some text => "bulk-string('" ++ Text.quoted text ++ "')"
  | none =>
    let numbers := bytes.data.toList.map fun b => Text.Decimal.ofNat b.toNat
    "binary-data([" ++ ", ".intercalate numbers ++ "])"

/-- The shown forms of the formats of text that are known. -/
def formats : List (String × String) := [("txt", "Text"), ("mkd", "Markdown")]

/-- The shown forms of the kinds of messages that are known. -/
def pushKinds : List (String × String) :=
  [("invalidate", "Invalidate"), ("message", "Message"), ("pmessage", "PMessage"),
    ("smessage", "SMessage"), ("unsubscribe", "Unsubscribe"),
    ("punsubscribe", "PUnsubscribe"), ("sunsubscribe", "SUnsubscribe"),
    ("subscribe", "Subscribe"), ("psubscribe", "PSubscribe"), ("ssubscribe", "SSubscribe")]

/-- The shown form of a name: the one it has, or else its text under another heading. -/
def shownName (names : List (String × String)) (heading name : String) : String :=
  (names.lookup name).getD (heading ++ "(" ++ Text.quoted name ++ ")")

mutual

/-- The shown form of a value. Attributes are not shown. -/
def shown : ServerValue → String
  | nil => "nil"
  | int n => "int(" ++ Text.Decimal.ofInt n ++ ")"
  | okay => "ok"
  | simple text => "simple-string(" ++ Text.quoted text ++ ")"
  | bulk bytes => shownBytes bytes
  | array items => "array([" ++ ", ".intercalate (shownEach items) ++ "])"
  | set items => "set([" ++ ", ".intercalate (shownEach items) ++ "])"
  | map entries => "map([" ++ ", ".intercalate (shownEntries entries) ++ "])"
  | attributed data _ => "attribute(" ++ data.shown ++ ")"
  | bool value => "boolean(" ++ (if value then "true" else "false") ++ ")"
  | double value => "double(" ++ value.shown ++ ")"
  | bigInt value => "big-number(" ++ Text.Decimal.ofInt value ++ ")"
  | verbatim format text =>
    "verbatim-string(" ++ shownName formats "Unknown" format ++ "," ++ Text.quoted text ++ ")"
  | push kind items =>
    "push(" ++ shownName pushKinds "Other" kind ++ ", [" ++
      ", ".intercalate (shownEach items) ++ "])"
  | error e => "Server error: \x60" ++ e.text ++ "\x60"

/-- The shown forms of values. -/
def shownEach : List ServerValue → List String
  | [] => []
  | v :: vs => v.shown :: shownEach vs

/-- The shown forms of pairs of values. -/
def shownEntries : List (ServerValue × ServerValue) → List String
  | [] => []
  | (k, v) :: entries => ("(" ++ k.shown ++ ", " ++ v.shown ++ ")") :: shownEntries entries

end

/-! ## Replies -/

/-- The reply of a script in a value. -/
def reply : ServerValue → Except ServerFault Reply
  | nil => .ok .nil
  | int n => .ok (.int n)
  | okay => .ok (.text "OK")
  | simple text => .ok (.text text)
  | bulk bytes =>
    match String.fromUTF8? bytes with
    | some text => .ok (.text text)
    | none => .error (.client "TypeError" "script returned a non-UTF-8 string" none)
  | v => .error (.client "TypeError" "script returned an unsupported reply type" (some v.shown))

/-- A value without its attributes. -/
def bare : ServerValue → ServerValue
  | attributed data _ => data
  | v => v

/-- Checks that a value, its attributes aside, can stand for a text. -/
def checkText (v : ServerValue) : Except ServerFault Unit :=
  match v.bare with
  | bulk bytes =>
    if (String.fromUTF8? bytes).isSome then .ok ()
    else .error (.client "TypeError" "Cannot convert from UTF-8" none)
  | okay => .ok ()
  | simple _ => .ok ()
  | verbatim .. => .ok ()
  | double _ => .ok ()
  | int _ => .ok ()
  | v =>
    .error (.client "TypeError" "Response was of incompatible type"
      (some ("\"Response type not string compatible.\" (response was " ++ v.shown ++ ")")))

end ServerValue

end Turnstile
