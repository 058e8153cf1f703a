/-!
# Log records

What the library does is logged as records: a level, a message and named fields. The events
of locks, queues and server connections are types of their own; each knows its record.
-/

namespace Turnstile

/-- How much a record matters. -/
inductive Level where
  | debug
  | warn
deriving DecidableEq, Repr

/-- The value of a field. -/
inductive LogValue where
  | text (value : String)
  | number (value : Int)
  | flag (value : Bool)
deriving DecidableEq, Repr

/-- One record. -/
structure LogRecord where
  level : Level
  message : String
  fields : List (String × LogValue)
deriving DecidableEq, Repr

end Turnstile
