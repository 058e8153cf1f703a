import Turnstile.Reply

/-!
# Exchanges

Most operations ask the store one question. Such an operation is a request together with
what becomes of the answer: the events to log and the result or error.
-/

namespace Turnstile

/-- One question to the store and what becomes of its answer. The events are of type `κ`,
the errors of type `ε` and the results of type `α`. -/
structure Exchange (κ ε α : Type) where
  request : Request
  finish : Answer → List κ × Except ε α

namespace Exchange

/-- The exchange of a command whose reply is made into a result, where no event is logged
but on a result. An error of the store, or in its reply, becomes one of the operation. -/
def ofReply {κ ε α : Type} (request : Request) (store : StoreError → ε)
    (result : Reply → Except StoreError α) (events : α → List κ) : Exchange κ ε α where
  request := request
  finish answer :=
    match answer.bind result with
    | .error e => ([], .error (store e))
    | .ok a => (events a, .ok a)

/-- Makes more of the result, which may fail. The events stay. -/
def andThen {κ ε α β : Type} (x : Exchange κ ε α) (f : α → Except ε β) : Exchange κ ε β where
  request := x.request
  finish answer :=
    let (events, result) := x.finish answer
    (events, result.bind f)

end Exchange

end Turnstile
