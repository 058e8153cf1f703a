import Turnstile.Server.Client
import Turnstile.Server.Wire.Basic
import Turnstile.Server.Wire.Reader

/-!
# A server with prepared replies

A client is tried out on a server that listens or does not, and that answers each command
with the next of a row of replies, and with nil when there are none left. What the server
writes reaches the client as bytes. Each connection has an intake of its own, so what is left
unread on one is lost.
-/

namespace Turnstile.Simulation

/-- What the server does on a command. -/
inductive PreparedReply where
  | value (value : WireValue)
  /-- Closes the connection without an answer. -/
  | close

/-- A server with prepared replies. -/
structure PreparedServer where
  isListening : Bool := true
  replies : List PreparedReply := []
  /-- The commands received so far, the newest first. -/
  received : List ServerCommand := []
  /-- The client's end of the connection. -/
  intake : Wire.Intake := {}

namespace PreparedServer

/-- Writes a value. -/
def write (value : WireValue) (s : PreparedServer) : PreparedServer :=
  { s with intake := s.intake.write value.encode }

/-- Has the client read the reply to a command. -/
def read (s : PreparedServer) : Except ServerFault ServerValue × PreparedServer :=
  match Wire.readReply s.intake with
  | .ok (v, intake) => (.ok v, { s with intake })
  | .error f => (.error f.serverFault, s)

/-- A new connection, on which the client has introduced itself. The two commands by which it
does so are answered alike. -/
def opened (s : PreparedServer) : PreparedServer :=
  let s := ({ s with intake := {} }.write (.status "OK")).write (.status "OK")
  s.read.2.read.2

/-- Receives a command and writes the reply that is due. -/
def receive (command : ServerCommand) (s : PreparedServer) : PreparedServer :=
  let s := { s with received := command :: s.received }
  match s.replies with
  | [] => s.write .nil
  | .value v :: replies => { s with replies }.write v
  | .close :: replies => { s with replies }

/-- How a client reaches the server. -/
def connection : Connection PreparedServer where
  connect s :=
    if s.isListening then .ok s.opened
    else .error (.connection "No such file or directory (os error 2)")
  send command s := (s.receive command).read

end PreparedServer

/-- What a client does with a server. -/
inductive ServerStep where
  | ping
  | eval (request : Request)

/-- What a step came to. -/
inductive ServerResult where
  | pong (result : Except StoreError Unit)
  | answer (answer : Answer)

/-- What there is to tell of a step: its result, what was sent and what was logged. -/
structure ServerReport where
  result : ServerResult
  sent : List ServerCommand
  logged : List LogRecord

/-- Runs steps of one client on a server. -/
def serverSession : List ServerStep → ServerClient → PreparedServer → List ServerReport
  | [], _, _ => []
  | step :: steps, client, s =>
    let s := { s with received := [] }
    match step with
    | .ping =>
      let (result, s) := PreparedServer.connection.ping s
      ⟨.pong result, s.received.reverse, []⟩ :: serverSession steps client s
    | .eval request =>
      let (answer, events, client, s) := client.eval PreparedServer.connection request s
      ⟨.answer answer, s.received.reverse, events.map ServerEvent.record⟩ ::
        serverSession steps client s

end Turnstile.Simulation
