import NotebookKernel.Proofs.Engine.Taped
import NotebookKernel.Session

/-! # What each call does to a session

One equation for each call, on a session with an engine and on a session without one.  Only
`Handle.slot` matters for the engine, and only an answer with an environment changes the
environment.
-/

namespace NotebookKernel.Session

variable {ε δ : Type}

/-! ## Answers -/

theorem decode_ne_sessionClosed (document : String) :
    Response.decode document ≠ .error .sessionClosed := by
  intro closed
  simp only [Response.decode] at closed
  split at closed
  · cases closed
  · split at closed <;> cases closed
  · cases closed

theorem readAnswer_eq_sessionClosed {answer : Except EngineError String} :
    readAnswer answer = .error .sessionClosed ↔ answer = .error .sessionClosed := by
  cases answer with
  | error e => simp [readAnswer, Except.bind]
  | ok document =>
    simp only [readAnswer, Except.bind, reduceCtorEq, iff_false]
    exact decode_ne_sessionClosed _

theorem readAnswer_eq_ok {answer : Except EngineError String} {r : Response} :
    readAnswer answer = .ok r ↔ ∃ document, answer = .ok document ∧
      Response.decode (String.ofList (Text.trim document.toList)) = .ok r := by
  cases answer with
  | error failure => simp [readAnswer, Except.bind]
  | ok document => simp [readAnswer, Except.bind]

/-- What is reported of an answer: every failure but a closed session becomes a response. -/
def reported : Except EngineError Response → Except EngineError Response
  | .ok r => .ok r
  | .error .sessionClosed => .error .sessionClosed
  | .error e => .ok (.failed ("Error communicating with Lean REPL: " ++ e.message))

/-- The environment that an answer brings, if it is a success with one. -/
def answeredEnv : Except EngineError Response → Option Nat
  | .ok r => r.env
  | .error _ => none

/-- What an inspection makes of an answer. -/
def inspected (name : String) : Except EngineError Response → Except EngineError String
  | .ok r => .ok (inspectionText name r)
  | .error .sessionClosed => .error .sessionClosed
  | .error _ => .ok ""

/-! ## With an engine -/

section Open

variable {E : Engine ε} {s : Session ε} {e : ε}

theorem send_of_slot (slot : s.handle.slot = some e) (c : Command) :
    s.send E c = (readAnswer (E.send e c.document).1,
      { s with handle := s.handle.putBack (E.send e c.document).2 }) := by
  simp only [send, Handle.acquire, slot]

theorem executeIn_of_slot (slot : s.handle.slot = some e) (code : String) (env : Option Nat) :
    s.executeIn E code env =
      (reported (readAnswer (E.send e (Command.document ⟨code, env <|> s.env⟩)).1),
        { s with
          handle := s.handle.putBack (E.send e (Command.document ⟨code, env <|> s.env⟩)).2
          env := answeredEnv (readAnswer (E.send e (Command.document ⟨code, env <|> s.env⟩)).1) <|>
            s.env }) := by
  simp only [executeIn, send_of_slot slot]
  obtain failure | r := readAnswer (E.send e (Command.document ⟨code, env <|> s.env⟩)).1
  · cases failure <;> rfl
  · rfl

theorem inspect_of_slot (slot : s.handle.slot = some e) (running : s.isClosed = false)
    (code : String) (cursor : Nat) :
    s.inspect E code cursor =
      if (Cell.Span.at code.toList cursor).isEmpty then (.ok "", s)
      else
        let name := (Cell.Span.at code.toList cursor).name
        (inspected name (readAnswer (E.send e (checkCommand name s.env).document).1),
          { s with handle := s.handle.putBack (E.send e (checkCommand name s.env).document).2 }) := by
  simp only [inspect, running, Bool.false_eq_true, if_false, send_of_slot slot]
  split
  · rfl
  · obtain failure | r := readAnswer _
    · cases failure <;> rfl
    · rfl

end Open

/-! ## Without an engine -/

theorem executeIn_of_empty {E : Engine ε} {s : Session ε} (slot : s.handle.slot = none)
    (code : String) (env : Option Nat) : s.executeIn E code env = (.error .sessionClosed, s) := by
  simp only [executeIn, send, Handle.acquire, slot]

theorem inspect_of_closed {E : Engine ε} {s : Session ε} (closed : s.isClosed = true)
    (code : String) (cursor : Nat) : s.inspect E code cursor = (.error .sessionClosed, s) := by
  simp only [inspect, closed, if_true]

/-! ## Through a simulation -/

/-- A session with its engine seen through `f`. -/
def map (f : ε → δ) (s : Session ε) : Session δ :=
  { handle := s.handle.map f, env := s.env, vocabulary := s.vocabulary }

@[simp] theorem map_env (f : ε → δ) (s : Session ε) : (s.map f).env = s.env := rfl

@[simp] theorem map_isClosed (f : ε → δ) (s : Session ε) : (s.map f).isClosed = s.isClosed := rfl

section Simulation

variable {E : Engine ε} {D : Engine δ} {f : ε → δ}

theorem map_send (sim : E.Simulates D f) (s : Session ε) (c : Command) :
    (s.map f).send D c = ((s.send E c).1, (s.send E c).2.map f) := by
  simp only [send, map, Handle.map_acquire]
  cases s.handle.acquire with
  | error e => rfl
  | ok e =>
    simp only [Except.map, sim.send]
    rfl

theorem map_executeIn (sim : E.Simulates D f) (s : Session ε) (code : String) (env : Option Nat) :
    (s.map f).executeIn D code env =
      ((s.executeIn E code env).1, (s.executeIn E code env).2.map f) := by
  simp only [executeIn, map_send sim, map_env]
  obtain ⟨failure | r, s'⟩ := s.send E ⟨code, env <|> s.env⟩
  · cases failure <;> rfl
  · rfl

theorem map_inspect (sim : E.Simulates D f) (s : Session ε) (code : String) (cursor : Nat) :
    (s.map f).inspect D code cursor =
      ((s.inspect E code cursor).1, (s.inspect E code cursor).2.map f) := by
  simp only [inspect, map_send sim, map_env, map_isClosed]
  cases s.isClosed with
  | true => rfl
  | false =>
    simp only [Bool.false_eq_true, if_false]
    split
    · rfl
    · obtain ⟨failure | r, s'⟩ := s.send E _
      · cases failure <;> rfl
      · rfl

theorem map_shutdown (sim : E.Simulates D f) (s : Session ε) :
    (s.map f).shutdown D = ((s.shutdown E).1, (s.shutdown E).2.map f) := by
  simp only [shutdown, map, Handle.map_close sim]

end Simulation

end NotebookKernel.Session
