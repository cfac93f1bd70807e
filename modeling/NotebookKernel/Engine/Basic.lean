import NotebookKernel.Engine.Failure

/-! # Engines

An engine answers one document at a time and has to be released in the end.  `Engine` says
what can be done with one whose state is an `ε`: a child process, prepared answers, or
anything else.
-/

namespace NotebookKernel

/-- The operations on an engine with states `ε`. -/
structure Engine (ε : Type) where
  send : ε → String → Except EngineError String × ε
  /-- How many milliseconds the answer to a document takes; `none` if it never comes. -/
  delay : ε → String → Option Nat
  /-- The engine after an exchange that was given up after so many milliseconds. -/
  interrupt : ε → String → Nat → ε
  shutdown : ε → ε

def Engine.answersWithin {ε : Type} (E : Engine ε) (e : ε) (document : String) (millis : Nat) :
    Bool :=
  (E.delay e document).any (· ≤ millis)

end NotebookKernel
