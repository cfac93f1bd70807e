import NotebookKernel.Proofs.Session.Diary

/-! # Starting a session

With a header a session is either opened behind it or not at all.  There is one lemma for each way
in which `start` ends: without a header, after an answer that loads it, after any other answer, and
when the time is up.  In the last two the engine has been released, once, and nobody has it.
-/

namespace NotebookKernel

variable {ε δ : Type}

/-- A start with its engines seen through `f`. -/
def Start.map (f : ε → δ) : Start ε → Start δ
  | .opened s => .opened (s.map f)
  | .failed error released => .failed error (released.map f)

namespace Session

/-- The command of a header; there is no environment yet. -/
def headerCommand (code : String) : String :=
  Command.document ⟨code, none⟩

/-- The engine answers a header in time, with a success that has no error among its messages and
    leaves the given environment. -/
inductive HeaderLoads (E : Engine ε) (e : ε) (code : String) (seconds : Nat) : Option Nat → Prop
  | intro {document output : String} {raw : Json.Value} {env : Option Nat}
    (inTime : E.answersWithin e (headerCommand code) (seconds * 1000) = true)
    (answered : (E.send e (headerCommand code)).1 = .ok document)
    (decoded : Response.decode (String.ofList (Text.trim document.toList)) =
      .ok (.success output raw env))
    (clean : ∀ m ∈ (Response.success output raw env).messages, m.severity ≠ .error) :
    HeaderLoads E e code seconds env

/-! ## Answers to a header -/

theorem headerFailure_reported_eq_none {a : Except EngineError Response} :
    headerFailure (reported a) = none ↔ ∃ output raw env, a = .ok (.success output raw env) ∧
      ∀ m ∈ (Response.success output raw env).messages, m.severity ≠ .error := by
  obtain error | r := a
  · cases error <;> simp [reported, headerFailure, Response.failed]
  · cases r with
    | error message raw => simp [reported, headerFailure]
    | success output raw env => simp [reported, headerFailure, Response.hasErrors]

/-- A header loads if it is answered in time and nothing is wrong with the answer. -/
theorem headerLoads_iff {E : Engine ε} {e : ε} {code : String} {seconds : Nat} {env : Option Nat} :
    HeaderLoads E e code seconds env ↔
      E.answersWithin e (headerCommand code) (seconds * 1000) = true ∧
        headerFailure (reported (readAnswer (E.send e (headerCommand code)).1)) = none ∧
        answeredEnv (readAnswer (E.send e (headerCommand code)).1) = env := by
  rw [headerFailure_reported_eq_none]
  constructor
  · rintro ⟨inTime, answered, decoded, clean⟩
    have read := readAnswer_eq_ok.mpr ⟨_, answered, decoded⟩
    rw [read]
    exact ⟨inTime, ⟨_, _, _, rfl, clean⟩, rfl⟩
  · rintro ⟨inTime, ⟨output, raw, env', succeeds, clean⟩, left⟩
    obtain ⟨document, answered, decoded⟩ := readAnswer_eq_ok.mp succeeds
    rw [succeeds] at left
    cases left
    exact ⟨inTime, answered, decoded, clean⟩

/-! ## The ways in which a start ends -/

section Outcomes

variable {E : Engine ε} {e : ε} {code : String} {seconds : Nat}

theorem start_late (late : E.answersWithin e (headerCommand code) (seconds * 1000) = false) :
    start E e (some code) seconds =
      .failed (.bootstrap ("session header failed: " ++ (EngineError.timedOut seconds).message))
        (some (E.shutdown (E.interrupt e (headerCommand code) (seconds * 1000)))) := by
  change (withEngine e).prepare E (some code) seconds = _
  have acquired : (withEngine e).handle.acquire = .ok e := rfl
  have document : Command.document ⟨code, (withEngine e).env⟩ = headerCommand code := rfl
  simp only [prepare, acquired, document, late]
  rfl

theorem execute_header :
    (withEngine e).execute E code =
      (reported (readAnswer (E.send e (headerCommand code)).1),
        { withEngine (E.send e (headerCommand code)).2 with
          env := answeredEnv (readAnswer (E.send e (headerCommand code)).1) }) := by
  have executed := executeIn_of_slot (E := E) (s := withEngine e) rfl code none
  have first : Command.document ⟨code, none <|> (withEngine e).env⟩ = headerCommand code := rfl
  rw [first] at executed
  rw [execute, executed]
  cases answeredEnv (readAnswer (E.send e (headerCommand code)).1) <;> rfl

theorem start_answered (inTime : E.answersWithin e (headerCommand code) (seconds * 1000) = true) :
    start E e (some code) seconds =
      match headerFailure (reported (readAnswer (E.send e (headerCommand code)).1)) with
      | none => .opened { withEngine (E.send e (headerCommand code)).2 with
          env := answeredEnv (readAnswer (E.send e (headerCommand code)).1) }
      | some failure => .failed (.bootstrap ("session header failed: " ++ failure.message))
          (some (E.shutdown (E.send e (headerCommand code)).2)) := by
  change (withEngine e).prepare E (some code) seconds = _
  have acquired : (withEngine e).handle.acquire = .ok e := rfl
  have document : Command.document ⟨code, (withEngine e).env⟩ = headerCommand code := rfl
  simp only [prepare, acquired, document, inTime, if_true, execute_header]
  rfl

/-- A header that loads opens a session behind it. -/
theorem start_of_loads {env : Option Nat} (loads : HeaderLoads E e code seconds env) :
    start E e (some code) seconds =
      .opened { withEngine (E.send e (headerCommand code)).2 with env } := by
  obtain ⟨inTime, succeeds, rfl⟩ := headerLoads_iff.mp loads
  rw [start_answered inTime, succeeds]

/-- Any other header is the end of the engine, wherever the exchange had got to. -/
theorem start_of_not_loads (fails : ∀ env, ¬ HeaderLoads E e code seconds env) :
    ∃ reason, start E e (some code) seconds = .failed (.bootstrap reason)
      (some (E.shutdown
        (if E.answersWithin e (headerCommand code) (seconds * 1000) then
          (E.send e (headerCommand code)).2
        else E.interrupt e (headerCommand code) (seconds * 1000)))) := by
  cases inTime : E.answersWithin e (headerCommand code) (seconds * 1000) with
  | false => exact ⟨_, start_late inTime⟩
  | true =>
    cases failed : headerFailure (reported (readAnswer (E.send e (headerCommand code)).1)) with
    | none => exact absurd (headerLoads_iff.mpr ⟨inTime, failed, rfl⟩) (fails _)
    | some failure =>
      refine ⟨"session header failed: " ++ failure.message, ?_⟩
      rw [start_answered inTime, failed]
      rfl

end Outcomes

/-! ## Through a simulation -/

theorem map_start {E : Engine ε} {D : Engine δ} {f : ε → δ} (sim : E.Simulates D f) (e : ε)
    (header : Option String) (seconds : Nat) :
    start D (f e) header seconds = (start E e header seconds).map f := by
  cases header with
  | none => rfl
  | some code =>
    have same : D.answersWithin (f e) (headerCommand code) (seconds * 1000) =
        E.answersWithin e (headerCommand code) (seconds * 1000) := by
      rw [Engine.answersWithin, sim.delay]
      rfl
    cases inTime : E.answersWithin e (headerCommand code) (seconds * 1000) with
    | false =>
      rw [start_late inTime, start_late (same.trans inTime), sim.interrupt, sim.shutdown]
      rfl
    | true =>
      rw [start_answered inTime, start_answered (same.trans inTime), sim.send]
      cases headerFailure (reported (readAnswer (E.send e (headerCommand code)).1)) with
      | none => rfl
      | some failure =>
        rw [sim.shutdown]
        rfl

theorem headerLoads_taped {E : Engine ε} {e : ε} {code : String} {seconds : Nat}
    {env : Option Nat} :
    HeaderLoads E.taped ⟨e, []⟩ code seconds env ↔ HeaderLoads E e code seconds env := by
  rw [headerLoads_iff, headerLoads_iff]
  rfl

/-! ## What the engine has seen -/

/-- The traffic about a header: it is sent, or given up when the time is up. -/
def headerTraffic (E : Engine ε) (e : ε) (code : String) (seconds : Nat) : Traffic :=
  if E.answersWithin e (headerCommand code) (seconds * 1000) then
    .sent (headerCommand code) (E.send e (headerCommand code)).1
  else .interrupted (headerCommand code) (seconds * 1000)

section Taped

variable {E : Engine ε} {e : ε} {code : String} {seconds : Nat}

theorem start_taped_of_loads {env : Option Nat} (loads : HeaderLoads E e code seconds env) :
    ∃ engine, start E.taped ⟨e, []⟩ (some code) seconds = .opened { withEngine engine with env } ∧
      engine.tape = [headerTraffic E e code seconds] := by
  refine ⟨_, start_of_loads (headerLoads_taped.mpr loads), ?_⟩
  rw [headerTraffic, if_pos (headerLoads_iff.mp loads).1]
  rfl

theorem start_taped_of_not_loads (fails : ∀ env, ¬ HeaderLoads E e code seconds env) :
    ∃ reason engine, start E.taped ⟨e, []⟩ (some code) seconds =
        .failed (.bootstrap reason) (some engine) ∧
      engine.tape = [headerTraffic E e code seconds, .released] := by
  obtain ⟨reason, failed⟩ := start_of_not_loads
    fun env (taped : HeaderLoads E.taped ⟨e, []⟩ code seconds env) =>
      fails env (headerLoads_taped.mp taped)
  refine ⟨reason, _, failed, ?_⟩
  have same : E.taped.answersWithin ⟨e, []⟩ (headerCommand code) (seconds * 1000) =
      E.answersWithin e (headerCommand code) (seconds * 1000) := rfl
  rw [headerTraffic, same]
  split <;> rfl

end Taped

/-! ## All or nothing -/

/-- A session is opened just if its header loads, or there is none.  It is ready then, on an engine
    that has seen the header and nothing else, and in the environment that the header has left.  A
    start that fails leaves a failure and an engine that has been released once.  An engine without
    a tape behaves no differently. -/
theorem start_all_or_nothing (E : Engine ε) (e : ε) (header : Option String) (seconds : Nat) :
    let outcome := start E.taped ⟨e, []⟩ header seconds
    ((∃ s, outcome = .opened s) ↔ ∀ code ∈ header, ∃ env, HeaderLoads E e code seconds env) ∧
    (∀ s, outcome = .opened s →
      (∃ engine, s.handle = .ready engine ∧
        engine.tape = header.toList.map (headerTraffic E e · seconds)) ∧
      (header = none → s.env = none) ∧ ∀ code ∈ header, HeaderLoads E e code seconds s.env) ∧
    ((∀ s, outcome ≠ .opened s) →
      ∃ code ∈ header, ∃ reason engine, outcome = .failed (.bootstrap reason) (some engine) ∧
        engine.tape = [headerTraffic E e code seconds, .released]) ∧
    start E e header seconds = outcome.map Taped.engine := by
  intro outcome
  have untaped : start E e header seconds = outcome.map Taped.engine :=
    map_start E.taped_simulates ⟨e, []⟩ header seconds
  cases header with
  | none =>
    have opened : outcome = .opened (withEngine ⟨e, []⟩) := rfl
    refine ⟨⟨fun _ => nofun, fun _ => ⟨_, opened⟩⟩, fun s started => ?_,
      fun never => absurd opened (never _), untaped⟩
    rw [opened] at started
    cases started
    exact ⟨⟨_, rfl, rfl⟩, fun _ => rfl, nofun⟩
  | some code =>
    by_cases loads : ∃ env, HeaderLoads E e code seconds env
    · obtain ⟨env, loads⟩ := loads
      obtain ⟨engine, opened, tape⟩ := start_taped_of_loads loads
      have all : ∀ code' ∈ some code, HeaderLoads E e code' seconds env := by
        intro code' here
        cases here
        exact loads
      refine ⟨⟨fun _ code' here => ⟨env, all code' here⟩, fun _ => ⟨_, opened⟩⟩,
        fun s started => ?_, fun never => absurd opened (never _), untaped⟩
      have same : Start.opened { withEngine engine with env } = .opened s := opened.symm.trans started
      cases same
      exact ⟨⟨engine, rfl, tape⟩, nofun, all⟩
    · obtain ⟨reason, engine, failed, tape⟩ := start_taped_of_not_loads (not_exists.mp loads)
      have never (s : Session (Taped ε)) : outcome ≠ .opened s := by
        intro opened
        have same : Start.failed _ _ = Start.opened s := failed.symm.trans opened
        cases same
      exact ⟨⟨fun ⟨s, opened⟩ => absurd opened (never s), fun all => absurd (all code rfl) loads⟩,
        fun s opened => absurd opened (never s),
        fun _ => ⟨code, rfl, reason, engine, failed, tape⟩, untaped⟩

end Session

end NotebookKernel
