import Turnstile.Log
import Turnstile.Server.Value
import Std.Data.TreeMap

/-!
# Running scripts on a server

A client has the server run a script by the digest of its body. A server that does not know
the digest is sent the body, and then asked once more. The client keeps the body of each
script name from the first time it sees the name. A digest is told by the body it is of.
-/

namespace Turnstile

/-- What a client sends. -/
inductive ServerCommand where
  /-- Run the script with this body, which is sent as its digest. -/
  | run (body : String) (keys args : List String)
  /-- Keep this body. -/
  | load (body : String)
  | ping
deriving DecidableEq, Repr

/-- The words of a command, given the digests of bodies. -/
def ServerCommand.words (digest : String → String) : ServerCommand → List String
  | run body keys args =>
    ["EVALSHA", digest body, Text.Decimal.ofNat keys.length] ++ keys ++ args
  | load body => ["SCRIPT", "LOAD", body]
  | ping => ["PING"]

/-- How a client reaches a server, of which `σ` is the state. -/
structure Connection (σ : Type) where
  /-- Makes a new connection. -/
  connect : σ → Except ServerFault σ
  /-- Sends one command and receives one value. -/
  send : ServerCommand → σ → Except ServerFault ServerValue × σ

/-- A client: the bodies it keeps, by the names of their scripts. -/
structure ServerClient where
  bodies : Std.TreeMap String String := ∅

/-- What a client logs: a script was run. -/
structure ServerEvent where
  script : String
  keys : List String
  reply : Reply
deriving DecidableEq, Repr

/-- The record of an event. -/
def ServerEvent.record (e : ServerEvent) : LogRecord :=
  ⟨.debug, "script executed",
    [("script", .text e.script), ("keys", .text (Text.quotedList e.keys)),
      ("reply", .text e.reply.shown)]⟩

namespace Connection

variable {σ : Type}

/-- Sends a command and receives a value without errors. -/
def query (c : Connection σ) (command : ServerCommand) (s : σ) :
    Except ServerFault ServerValue × σ :=
  match c.send command s with
  | (.error f, s) => (.error f, s)
  | (.ok v, s) => (v.checked, s)

/-- Has the server run a body, which it is sent if it does not know it. -/
def runBody (c : Connection σ) (body : String) (keys args : List String) (s : σ) :
    Except ServerFault Reply × σ :=
  let command := ServerCommand.run body keys args
  match c.query command s with
  | (.ok v, s) => (v.reply, s)
  | (.error (.signalled e), s) =>
    if e.isUnknownScript then
      match c.query (.load body) s with
      | (.error f, s) => (.error f, s)
      | (.ok _, s) =>
        let (result, s) := c.query command s
        (result.bind ServerValue.reply, s)
    else (.error (.signalled e), s)
  | (.error f, s) => (.error f, s)

/-- Asks the server for a sign of life. -/
def ping (c : Connection σ) (s : σ) : Except StoreError Unit × σ :=
  match c.connect s with
  | .error f => (.error (f.storeError ServerFault.noScript), s)
  | .ok s =>
    let (result, s) := c.query .ping s
    ((result.bind ServerValue.checkText).mapError (·.storeError ServerFault.noScript), s)

end Connection

namespace ServerClient

/-- The body that is kept for a script's name, and the client that keeps it. -/
def bodyOf (client : ServerClient) (script : Script) : String × ServerClient :=
  match client.bodies[script.name]? with
  | some body => (body, client)
  | none => (script.body, ⟨client.bodies.insert script.name script.body⟩)

/-- Has a server run a request: its answer and what was logged. The body is looked up before
the connection is made. -/
def eval {σ : Type} (c : Connection σ) (client : ServerClient) (r : Request) (s : σ) :
    Answer × List ServerEvent × ServerClient × σ :=
  let (body, client) := client.bodyOf r.script
  match c.connect s with
  | .error f => (.error (f.storeError r.script.name), [], client, s)
  | .ok s =>
    match c.runBody body r.keys r.args s with
    | (.error f, s) => (.error (f.storeError r.script.name), [], client, s)
    | (.ok reply, s) => (.ok reply, [⟨r.script.name, r.keys, reply⟩], client, s)

end ServerClient

end Turnstile
