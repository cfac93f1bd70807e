import NotebookKernel.Engine.Basic

/-! # Handles

A handle owns an engine from its creation to its release.  It is created at most once and
released at most once; a closed handle stays closed.  The operations here are the parts of
one task's work while it has the handle to itself; `Handle.discipline` lets tasks take turns.
-/

namespace NotebookKernel

inductive Phase where
  | uninitialized
  | initializing
  | ready
  | closed
  deriving Repr, DecidableEq

structure Handle (ε : Type) where
  phase : Phase
  slot : Option ε
  /-- The engines that have been released, as they were then. -/
  retired : List ε

namespace Handle

variable {ε : Type}

def new : Handle ε :=
  { phase := .uninitialized, slot := none, retired := [] }

def ready (e : ε) : Handle ε :=
  { phase := .ready, slot := some e, retired := [] }

/-! ## Creation -/

inductive Vacancy where
  | taken
  | closed
  | vacant
  deriving Repr, DecidableEq

/-- Whether an engine can be created.  An abandoned creation leaves the phase
    `initializing`, which is as good as none. -/
def vacancy (h : Handle ε) : Vacancy :=
  match h.phase with
  | .ready => .taken
  | .closed => .closed
  | .uninitialized => .vacant
  | .initializing => .vacant

def beginCreation (h : Handle ε) : Handle ε :=
  { h with phase := .initializing }

def endCreation (h : Handle ε) : Except EngineError ε → Except EngineError Bool × Handle ε
  | .ok e => (.ok true, { h with phase := .ready, slot := some e })
  | .error error => (.error error, { h with phase := .uninitialized })

/-- Create the engine unless there is one; the result says whether this call did. -/
def init (h : Handle ε) (create : Except EngineError ε) : Except EngineError Bool × Handle ε :=
  match h.vacancy with
  | .taken => (.ok false, h)
  | .closed => (.error .sessionClosed, h)
  | .vacant => h.beginCreation.endCreation create

/-! ## Use and release -/

def acquire (h : Handle ε) : Except EngineError ε :=
  match h.slot with
  | some e => .ok e
  | none => .error .sessionClosed

def putBack (h : Handle ε) (e : ε) : Handle ε :=
  { h with slot := some e }

/-- Close the handle and release its engine; the result says whether there was one. -/
def close (h : Handle ε) (shutdown : ε → ε) : Bool × Handle ε :=
  match h.slot with
  | some e => (true, { phase := .closed, slot := none, retired := shutdown e :: h.retired })
  | none => (false, { h with phase := .closed })

/-- The engines that the handle has owned, the latest first. -/
def engines (h : Handle ε) : List ε :=
  h.slot.toList ++ h.retired

end Handle

end NotebookKernel
