import NotebookKernel.Handle

/-! # Engines with a tape

A tape beside an engine keeps what the engine is asked to do and what it answers, in order.
`Engine.taped` adds one to any engine.  It is an engine like any other, so whatever uses an
engine leaves its trace there, and taking the tape away again is a simulation.
-/

namespace NotebookKernel

variable {ε δ : Type}

/-- What passes between an engine and its user. -/
inductive Traffic where
  | sent (document : String) (answer : Except EngineError String)
  /-- An exchange that was given up. -/
  | interrupted (document : String) (millis : Nat)
  | released

def Traffic.document? : Traffic → Option String
  | .sent document _ => some document
  | _ => none

/-- An engine with what has passed so far. -/
structure Taped (ε : Type) where
  engine : ε
  tape : List Traffic

def Taped.note (e : Taped ε) (engine : ε) (t : Traffic) : Taped ε :=
  { engine, tape := e.tape ++ [t] }

/-- The same engine with a tape. -/
def Engine.taped (E : Engine ε) : Engine (Taped ε) where
  send e document :=
    let (answer, engine) := E.send e.engine document
    (answer, e.note engine (.sent document answer))
  delay e document := E.delay e.engine document
  interrupt e document millis :=
    e.note (E.interrupt e.engine document millis) (.interrupted document millis)
  shutdown e := e.note (E.shutdown e.engine) .released

/-! ## Simulations between engines -/

/-- Through `f` the engine `E` does what `D` does. -/
structure Engine.Simulates (E : Engine ε) (D : Engine δ) (f : ε → δ) : Prop where
  send (e : ε) (document : String) :
    D.send (f e) document = ((E.send e document).1, f (E.send e document).2)
  delay (e : ε) (document : String) : D.delay (f e) document = E.delay e document
  interrupt (e : ε) (document : String) (millis : Nat) :
    D.interrupt (f e) document millis = f (E.interrupt e document millis)
  shutdown (e : ε) : D.shutdown (f e) = f (E.shutdown e)

/-- The tape has no influence on its engine. -/
theorem Engine.taped_simulates (E : Engine ε) : E.taped.Simulates E Taped.engine where
  send _ _ := rfl
  delay _ _ := rfl
  interrupt _ _ _ := rfl
  shutdown _ := rfl

namespace Handle

/-- A handle with its engines seen through `f`. -/
def map (f : ε → δ) (h : Handle ε) : Handle δ :=
  { phase := h.phase, slot := h.slot.map f, retired := h.retired.map f }

theorem map_acquire (f : ε → δ) (h : Handle ε) : (h.map f).acquire = h.acquire.map f := by
  unfold acquire map
  cases h.slot <;> rfl

@[simp] theorem map_putBack (f : ε → δ) (h : Handle ε) (e : ε) :
    (h.map f).putBack (f e) = (h.putBack e).map f := rfl

theorem map_close {E : Engine ε} {D : Engine δ} {f : ε → δ} (sim : E.Simulates D f) (h : Handle ε) :
    (h.map f).close D.shutdown = ((h.close E.shutdown).1, (h.close E.shutdown).2.map f) := by
  obtain ⟨phase, slot, retired⟩ := h
  cases slot with
  | none => rfl
  | some e => simp [map, close, sim.shutdown]

end Handle

end NotebookKernel
