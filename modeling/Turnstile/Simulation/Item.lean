import Turnstile.Queue.Item

/-!
# Items of any type

A script of a simulation may use items of several types. `Item` holds an item of any of
them, and `ItemKind.codec` is the codec of one type on such items.
-/

namespace Turnstile.Simulation

/-- The types of items. -/
inductive ItemKind where
  | reminder
  | report
  | text
  | int64
  | byte
  | bool
  | optionalInt
  | ints
  | table
  | listKeyed
deriving DecidableEq, Repr

/-- An item of one of the types. -/
inductive Item where
  | reminder (value : Reminder)
  | report (value : Report)
  | text (value : String)
  | int64 (value : Int)
  | byte (value : Nat)
  | bool (value : Bool)
  | optionalInt (value : Option Int)
  | ints (value : List Int)
  | table (value : Codec.Table)
  | listKeyed

namespace Item

/-- The type of an item. -/
def kind : Item → ItemKind
  | reminder _ => .reminder
  | report _ => .report
  | text _ => .text
  | int64 _ => .int64
  | byte _ => .byte
  | bool _ => .bool
  | optionalInt _ => .optionalInt
  | ints _ => .ints
  | table _ => .table
  | listKeyed => .listKeyed

/-- The payload of an item. -/
def write : Item → Except Json.Fault String
  | reminder v => Reminder.codec.write v
  | report v => Report.codec.write v
  | text v => Codec.text.write v
  | int64 v => Codec.int64.write v
  | byte v => Codec.byte.write v
  | bool v => Codec.bool.write v
  | optionalInt v => Codec.optionalInt.write v
  | ints v => Codec.ints.write v
  | table v => Codec.table.write v
  | listKeyed => Codec.listKeyed.write ()

end Item

/-- The item of a type in a payload. -/
def ItemKind.read (s : String) : ItemKind → Except Json.Fault Item
  | reminder => (Reminder.codec.read s).map .reminder
  | report => (Report.codec.read s).map .report
  | text => (Codec.text.read s).map .text
  | int64 => (Codec.int64.read s).map .int64
  | byte => (Codec.byte.read s).map .byte
  | bool => (Codec.bool.read s).map .bool
  | optionalInt => (Codec.optionalInt.read s).map .optionalInt
  | ints => (Codec.ints.read s).map .ints
  | table => (Codec.table.read s).map .table
  | listKeyed => (Codec.listKeyed.read s).map fun _ => .listKeyed

/-- The codec of a type. Items of every type can be written. -/
def ItemKind.codec (kind : ItemKind) : Codec Item where
  write := Item.write
  read s := kind.read s

end Turnstile.Simulation
