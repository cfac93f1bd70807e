import NotebookKernel.Handle
import NotebookKernel.Schedule.Turns

/-! # Tasks at a handle

Several tasks may want to create, use or close the engine of one handle.  They take turns in
the order in which they come; the phase can be looked at any time.
-/

namespace NotebookKernel.Handle

open NotebookKernel.Schedule (Discipline Turn)

inductive Errand (ε : Type) where
  | init (name : String) (delay : Nat) (create : Except EngineError ε)
  /-- Hold the engine for a while and then send it a document. -/
  | send (request : String) (hold : Nat)
  | close
  | look

inductive Result where
  | created (here : Bool)
  | document (text : String)
  | released (here : Bool)
  | phase (p : Phase)
  | failed (e : EngineError)

/-- A handle and the names of the creations begun, the last one first. -/
structure Shared (ε : Type) where
  handle : Handle ε
  begun : List String

variable {ε : Type}

def Result.ofCreation : Except EngineError Bool → Result
  | .ok here => .created here
  | .error e => .failed e

def Shared.enter (E : Engine ε) (s : Shared ε) : Errand ε → Turn (Shared ε) Result
  | .init name delay _ =>
    match s.handle.vacancy with
    | .taken => .done (.created false) s
    | .closed => .done (.failed .sessionClosed) s
    | .vacant => .busy { handle := s.handle.beginCreation, begun := name :: s.begun } delay
  | .send _ hold =>
    match s.handle.acquire with
    | .ok _ => .busy s hold
    | .error e => .done (.failed e) s
  -- closing takes no time, so it is over when the turn begins
  | .close =>
    let (released, handle) := s.handle.close E.shutdown
    .done (.released released) { s with handle }
  | .look => .done (.phase s.handle.phase) s

def Shared.leave (E : Engine ε) (s : Shared ε) : Errand ε → Result × Shared ε
  | .init _ _ create =>
    let (result, handle) := s.handle.endCreation create
    (.ofCreation result, { s with handle })
  | .send request _ =>
    match s.handle.acquire with
    | .error e => (.failed e, s)
    | .ok e =>
      let (answer, e) := E.send e request
      let s := { s with handle := s.handle.putBack e }
      match answer with
      | .ok text => (.document text, s)
      | .error error => (.failed error, s)
  | .close => (.released false, s)
  | .look => (.phase s.handle.phase, s)

def discipline (E : Engine ε) : Discipline (Shared ε) (Errand ε) Result where
  glance s
    | .look => some (.phase s.handle.phase)
    | _ => none
  enter := Shared.enter E
  leave := Shared.leave E

end NotebookKernel.Handle
