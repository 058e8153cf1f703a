import Turnstile.Server.Fault
import Turnstile.Text.Decimal
import Turnstile.Url.Basic

/-!
# Addresses of servers

A server is addressed by a URL. With the scheme `redis` it names a host on the network,
before it perhaps a user and a password, behind it perhaps the number of a service, and in
its path perhaps a database. With the scheme `unix` or `redis+unix` its path is that of a
socket on this host, and a parameter may name the database. `checkUrl` tells what is wrong
with an address without connecting to it.
-/

namespace Turnstile

namespace Url

/-- Whether a part of a URL is percent-encoded text. -/
def isText (part : List Char) : Bool := (Text.exactText? (Text.percentDecoded part)).isSome

/-- The database that a path names, where an empty path stands for zero. -/
def database? (url : Url) : Option Int :=
  match url.trimmedPath with
  | [] => some 0
  | name => Text.Decimal.readInt64? (String.ofList name)

/-- Whether a URL has the path of a file on this host. -/
def hasFile (url : Url) : Bool :=
  (url.host == [] || String.ofList url.host == "localhost") && url.path.isSome

end Url

/-- What is wrong with an address: a fault of the client's settings. -/
def badUrl (description : String) : Except ServerFault Unit :=
  .error (.client "InvalidClientConfig" description none)

/-- Says what is wrong with an address unless something holds of it. -/
def requireUrl (holds : Bool) (description : String) : Except ServerFault Unit :=
  if holds then .ok () else badUrl description

/-- Checks that the protocol a URL asks for, if it does, is one that there is. -/
def checkProtocol (url : Url) : Except ServerFault Unit :=
  match url.parameter? "protocol" with
  | none => .ok ()
  | some version =>
    if ["2", "resp2", "3", "resp3"].contains version then .ok ()
    else .error (.client "InvalidClientConfig" "Invalid protocol version" (some version))

/-- Checks the address of a server on the network. -/
def checkNetworkUrl (url : Url) : Except ServerFault Unit := do
  requireUrl (url.host != []) "Missing hostname"
  requireUrl (url.scheme == "redis") "can't connect with TLS, the feature is not enabled"
  requireUrl url.database?.isSome "Invalid database number"
  requireUrl (Url.isText url.user) "Username is not valid UTF-8 string"
  requireUrl (Url.isText url.password) "Password is not valid UTF-8 string"
  checkProtocol url

/-- Checks the address of a socket on this host. -/
def checkSocketUrl (url : Url) : Except ServerFault Unit := do
  requireUrl url.hasFile "Missing path"
  requireUrl ((url.parameter? "db").all fun db => (Text.Decimal.readInt64? db).isSome)
    "Invalid database number"
  checkProtocol url

/-- Checks the address of a server. -/
def checkUrl (text : String) : Except ServerFault Unit :=
  match Url.ofText? text with
  | none => badUrl "Redis URL did not parse"
  | some url =>
    if ["redis", "rediss"].contains url.scheme then checkNetworkUrl url
    else if ["unix", "redis+unix"].contains url.scheme then checkSocketUrl url
    else badUrl "Redis URL did not parse"

end Turnstile
