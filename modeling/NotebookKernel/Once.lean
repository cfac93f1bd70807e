import NotebookKernel.Engine.Failure
import NotebookKernel.Schedule.Turns

/-! # Values that are made once

A `Once` cell is filled by the first attempt that succeeds; attempts take turns, a failed
one leaves the cell empty for the next, and after a success every attempt gets the value
without running.
-/

namespace NotebookKernel

open NotebookKernel.Schedule (Discipline Turn)

structure Once (α : Type) where
  value : Option α
  deriving Repr

namespace Once

variable {α : Type}

def empty : Once α := ⟨none⟩

/-- The value of the cell, or else what the attempt makes. -/
def getOrInit (c : Once α) (make : Except EngineError α) : Except EngineError α × Once α :=
  match c.value with
  | some a => (.ok a, c)
  | none =>
    match make with
    | .ok a => (.ok a, ⟨some a⟩)
    | .error e => (.error e, c)

/-! ## Attempts that take turns -/

/-- An attempt to fill the cell, which takes a while. -/
structure Attempt (α : Type) where
  id : Nat
  delay : Nat
  make : Except EngineError α

structure Shared (α : Type) where
  cell : Once α
  ran : List Nat

def discipline : Discipline (Shared α) (Attempt α) (Except EngineError α) where
  glance s _ := s.cell.value.map .ok
  enter s a :=
    match s.cell.value with
    | some v => .done (.ok v) s
    | none => .busy { s with ran := a.id :: s.ran } a.delay
  leave s a :=
    let (result, cell) := s.cell.getOrInit a.make
    (result, { s with cell })

end Once

end NotebookKernel
