import Turnstile.Text.Percent
import Turnstile.Text.Utf8
import Turnstile.Url.Host

/-!
# URLs

`Url.ofText?` takes a URL apart, by the rules for schemes that have none of their own. Behind
the scheme, two slashes announce an authority: perhaps a user and a password, a host, which
may be empty, and perhaps the number of a service. A path, a query and a fragment may follow.
Dots among the segments of the path are resolved, and a query holds parameters
(`Url.parameters`).
-/

namespace Turnstile

/-- The parts of a URL, percent-encoded as they stand there. -/
structure Url where
  scheme : String
  user : List Char := []
  password : List Char := []
  /-- Empty where no host is named. -/
  host : List Char := []
  /-- The segments, each of which has a slash before it. There are none without any slash. -/
  path : Option (List (List Char))
  query : List Char
deriving DecidableEq, Repr

namespace Url

/-! ## Text and scheme -/

/-- Characters that are dropped at both ends of a URL. -/
def isPadding (c : Char) : Bool := c.toNat ≤ 0x20

/-- Characters that are dropped anywhere in a URL. -/
def isBreak (c : Char) : Bool := c == '\t' || c == '\n' || c == '\r'

/-- A URL without padding and breaks. -/
def cleaned (cs : List Char) : List Char :=
  let front := cs.dropWhile isPadding
  (front.reverse.dropWhile isPadding).reverse.filter fun c => !isBreak c

/-- Characters of a scheme after its first, which is a letter. -/
def isSchemeChar (c : Char) : Bool := c.isAlphanum || c == '+' || c == '-' || c == '.'

/-! ## Path -/

/-- A segment with its encoded dots decoded. -/
def dotted : List Char → List Char
  | '%' :: '2' :: c :: rest =>
    if c = 'e' ∨ c = 'E' then '.' :: dotted rest else '%' :: dotted ('2' :: c :: rest)
  | c :: rest => c :: dotted rest
  | [] => []

/-- Whether a segment is the letter of a drive, which no dots lead out of. -/
def isDrive : List Char → Bool
  | letter :: mark :: rest =>
    letter.isAlpha && (mark == ':' || mark == '|') && (rest.isEmpty || rest.head? == some '\\')
  | _ => false

/-- The segments, the last first, above those given. -/
def parent : List (List Char) → List (List Char)
  | [] => []
  | segment :: above => if isDrive segment then segment :: above else above

/-- Goes down segments, with those gone down so far, the last first. One dot stays and two
dots go up; at the end they leave an empty segment. -/
def descend (above : List (List Char)) : List (List Char) → List (List Char)
  | [] => above.reverse
  | segment :: rest =>
    let arrive (above : List (List Char)) := if rest.isEmpty then [] :: above else above
    match dotted segment with
    | ['.'] => descend (arrive above) rest
    | ['.', '.'] => descend (arrive (parent above)) rest
    | _ => descend (segment :: above) rest

/-- The segments of a path, without its first slash. -/
def segments (path : List Char) : List (List Char) := descend [] (path.splitOn '/')

/-- The path without slashes at its ends. -/
def trimmedPath (url : Url) : List Char :=
  let text := ['/'].intercalate (url.path.getD [])
  ((text.dropWhile (· == '/')).reverse.dropWhile (· == '/')).reverse

/-! ## Authority -/

/-- Characters that end an authority. -/
def endsAuthority (c : Char) : Bool := c == '/' || c == '?' || c == '#'

/-- Characters that end a path. -/
def endsPath (c : Char) : Bool := c == '?' || c == '#'

/-- What stands before the last `@` of an authority, if there is one, and what behind it. -/
def splitUser (authority : List Char) : Option (List Char) × List Char :=
  let place := (authority.reverse.takeWhile (· != '@')).reverse
  if place.length = authority.length then (none, place)
  else (some (authority.take (authority.length - (place.length + 1))), place)

/-- What follows the number of a service, of 16 bits, which may be missing behind its colon.
A backslash may follow, and then belongs to the path. -/
def afterService? : List Char → Option (List Char)
  | ':' :: rest =>
    let number := Nat.ofDigitChars 10 (rest.takeWhile Char.isDigit) 0
    let rest := rest.dropWhile Char.isDigit
    if number ≤ 65535 ∧ (rest = [] ∨ rest.head? = some '\\') then some rest else none
  | rest => some rest

/-- The query in what follows an authority or a scheme. -/
def queryIn (rest : List Char) : List Char :=
  match rest.dropWhile fun c => !endsPath c with
  | '?' :: query => query.takeWhile (· != '#')
  | _ => []

/-- A URL of what follows the two slashes. A user, a password or a service needs a host. -/
def ofAuthority? (scheme : String) (cs : List Char) : Option Url := do
  let rest := cs.dropWhile fun c => !endsAuthority c
  let (userInfo, place) := splitUser (cs.takeWhile fun c => !endsAuthority c)
  let user := (userInfo.getD []).takeWhile (· != ':')
  let password := ((userInfo.getD []).dropWhile (· != ':')).drop 1
  let (host, service) := splitHost false place
  guard (isHost host)
  guard (host ≠ [] ∨ (service = [] ∧ user = [] ∧ password = []))
  guard (host ≠ [] ∨ userInfo ≠ some [] ∨ rest = [])
  let rest := (← afterService? service) ++ rest
  let path :=
    match rest.takeWhile fun c => !endsPath c with
    | [] => none
    | '/' :: path => some (segments path)
    | path => some (segments path)
  return { scheme, user, password, host, path, query := queryIn rest }

/-- A URL of what follows the scheme and its colon. -/
def ofRest? (scheme : String) : List Char → Option Url
  | '/' :: '/' :: rest => ofAuthority? scheme rest
  | rest =>
    let path :=
      match rest.takeWhile fun c => !endsPath c with
      | '/' :: path => some (segments path)
      | _ => none
    some { scheme, path, query := queryIn rest }

/-- The URL that a text is. -/
def ofText? (text : String) : Option Url :=
  let cs := cleaned text.toList
  let scheme := cs.takeWhile isSchemeChar
  match scheme, cs.dropWhile isSchemeChar with
  | first :: _, ':' :: rest =>
    if first.isAlpha then ofRest? (String.ofList (scheme.map Char.toLower)) rest else none
  | _, _ => none

/-! ## Query -/

/-- The text of a name or value in a query, where a plus stands for a space. -/
def parameterText (cs : List Char) : String :=
  Text.lossyText (Text.percentDecoded (cs.map fun c => if c = '+' then ' ' else c))

/-- The parameters of a query, by their names. -/
def parameters (url : Url) : List (String × String) :=
  ((url.query.splitOn '&').filter (· ≠ [])).map fun part =>
    (parameterText (part.takeWhile (· != '=')),
      parameterText ((part.dropWhile (· != '=')).drop 1))

/-- The parameter of a name: the last, if there are several. -/
def parameter? (url : Url) (name : String) : Option String :=
  url.parameters.reverse.lookup name

end Url

end Turnstile
