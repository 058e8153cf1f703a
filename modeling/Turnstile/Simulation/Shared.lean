/-!
# Shared cells

Clocks and cancel flags are cells that several clients refer to: a clone refers to the same
cell, so that what is done through one reference is seen through all.
-/

namespace Turnstile.Simulation

/-- Cells and references to them. -/
structure Shared (α : Type) where
  cells : List α
  /-- Which cell each reference is to. -/
  refs : List Nat
deriving Repr

namespace Shared

variable {α : Type}

/-- One cell with one reference. -/
def single (a : α) : Shared α := ⟨[a], [0]⟩

/-- A further reference, to a cell of its own. -/
def add (s : Shared α) (a : α) : Shared α := ⟨s.cells ++ [a], s.refs ++ [s.cells.length]⟩

/-- A further reference, to the cell of the one at an index. -/
def clone (s : Shared α) (index : Nat) : Shared α :=
  match s.refs[index]? with
  | some cell => { s with refs := s.refs ++ [cell] }
  | none => s

/-- Changes the cell of the reference at an index. -/
def modify (s : Shared α) (index : Nat) (f : α → α) : Shared α :=
  match s.refs[index]? with
  | some cell => { s with cells := s.cells.modify cell f }
  | none => s

/-- What is seen through each reference. -/
def values (s : Shared α) : List α := s.refs.filterMap fun cell => s.cells[cell]?

end Shared

/-- What can be done with shared cells. -/
inductive SharedStep (α : Type) where
  /-- Looks only. -/
  | look
  | change (index : Nat) (f : α → α)
  | clone (index : Nat)
  | add (a : α)

/-- What is seen through all references after each step. -/
def Shared.run {α : Type} : List (SharedStep α) → Shared α → List (List α)
  | [], _ => []
  | step :: steps, s =>
    let s :=
      match step with
      | .look => s
      | .change index f => s.modify index f
      | .clone index => s.clone index
      | .add a => s.add a
    s.values :: Shared.run steps s

end Turnstile.Simulation
