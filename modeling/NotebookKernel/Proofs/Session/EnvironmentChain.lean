import NotebookKernel.Engine.Canned
import NotebookKernel.Proofs.Session.Diary

/-! # The chain of environments

Every execution runs in the environment that the last success left, unless the caller names
another one, and nothing but the success of an execution with an environment moves the chain.
-/

namespace NotebookKernel.Session

variable {ε : Type} {E : Engine ε}

/-! ## What a call reports -/

theorem reported_eq_error {a : Except EngineError Response} {err : EngineError}
    (failed : reported a = .error err) : a = .error .sessionClosed := by
  obtain failure | r := a
  · cases failure with
    | sessionClosed => rfl
    | _ => cases failed
  · cases failed

theorem answeredEnv_of_reported {a : Except EngineError Response} {r : Response}
    (reports : reported a = .ok r) : answeredEnv a = r.env := by
  obtain failure | r' := a
  · cases failure with
    | sessionClosed => cases reports
    | _ => cases reports; rfl
  · cases reports
    rfl

theorem executes_of_response {s : Session ε} {c : Call} {r : Except EngineError Response}
    (finds : (s.call E c).1 = .response r) : c.executes := by
  cases c with
  | execute | executeIn => rfl
  | inspect | complete | completeness | shutdown => cases finds

theorem command_isSome_of_executes {c : Call} (runs : c.executes) (env : Option Nat) :
    ∃ m, c.command? env = some m := by
  cases c with
  | execute | executeIn => exact ⟨_, rfl⟩
  | inspect | complete | completeness | shutdown => cases runs

theorem found_of_executes {c : Call} (runs : c.executes) (answer : Except EngineError String) :
    c.found answer = .response (reported (readAnswer answer)) := by
  cases c with
  | execute | executeIn => rfl
  | inspect | complete | completeness | shutdown => cases runs

/-! ## Entries of a sound diary -/

namespace Diary

variable {calls : List Call} {d : Diary ε} {c : Call}

theorem Sound.documents (h : Sound calls d) (never : .shutdown ∉ calls) :
    (d.entry E c).traffic.filterMap Traffic.document? =
      (c.command? d.session.env).toList.map Command.document := by
  obtain ⟨_, e, open_⟩ | ⟨before, _⟩ := h.handle
  · cases command : c.command? d.session.env with
    | some m =>
      rw [(write_of_command (E := E) open_ command).1]
      rfl
    | none =>
      by_cases going : c = .shutdown
      · rw [going, (write_shutdown (E := E) open_).1]
        rfl
      · rw [(write_of_no_command (E := E) open_ command going).1]
        rfl
  · exact absurd before never

theorem Sound.silent (h : Sound calls d) (before : .shutdown ∈ calls) :
    (d.entry E c).traffic = [] := by
  obtain ⟨never, _⟩ | ⟨_, e, closed⟩ := h.handle
  · exact absurd before never
  · exact (write_of_closed (E := E) closed c).1

theorem Sound.env_write (h : Sound calls d) :
    (d.write E c).session.env = ((d.entry E c).env? <|> d.session.env) := by
  rw [(h.write (E := E) c).env, lastEnv_write, h.env]

/-- An execution either comes too late or makes one exchange. -/
theorem Sound.executes_cases (h : Sound calls d) (runs : c.executes) :
    (.shutdown ∈ calls ∧ (d.entry E c).finding = .response (.error .sessionClosed) ∧
      (d.entry E c).traffic = []) ∨
    (.shutdown ∉ calls ∧ ∃ e document, let answer := (E.send e document).1
      (d.entry E c).finding = .response (reported (readAnswer answer)) ∧
        (d.entry E c).traffic = [.sent document answer]) := by
  obtain ⟨never, e, open_⟩ | ⟨before, e, closed⟩ := h.handle
  · obtain ⟨m, command⟩ := command_isSome_of_executes runs d.session.env
    refine .inr ⟨never, e.engine, m.document, ?_⟩
    rw [(write_of_command (E := E) open_ command).1]
    exact ⟨found_of_executes runs _, rfl⟩
  · exact .inl ⟨before, call_of_closed_finding closed runs, h.silent before⟩

theorem env?_of_traffic (runs : c.executes) {document : String} {answer : Except EngineError String}
    (passed : (d.entry E c).traffic = [.sent document answer]) :
    (d.entry E c).env? = answeredEnv (readAnswer answer) := by
  have calls : (d.entry E c).call.executes = true := runs
  rw [Entry.env?, calls, passed]

theorem Sound.env?_of_ok (h : Sound calls d) {r : Response}
    (finds : (d.entry E c).finding = .response (.ok r)) : (d.entry E c).env? = r.env := by
  have runs := executes_of_response finds
  obtain ⟨_, refused, _⟩ | ⟨_, e, document, told, passed⟩ := h.executes_cases (E := E) runs
  · rw [refused] at finds
    cases finds
  · rw [told] at finds
    rw [env?_of_traffic runs passed]
    exact answeredEnv_of_reported (Finding.response.inj finds)

theorem Sound.env?_eq_none (h : Sound calls d)
    (finds : ∀ r, (d.entry E c).finding ≠ .response (.ok r)) : (d.entry E c).env? = none := by
  cases runs : c.executes with
  | false =>
    have calls : (d.entry E c).call.executes = false := runs
    rw [Entry.env?, calls]
  | true =>
    obtain ⟨_, _, quiet⟩ | ⟨_, e, document, told, passed⟩ := h.executes_cases (E := E) runs
    · exact env?_of_quiet quiet
    · rw [env?_of_traffic runs passed]
      cases answered : readAnswer (E.send e document).1 with
      | error failure => rfl
      | ok r =>
        rw [answered] at told
        exact absurd told (finds r)

theorem Sound.of_error (h : Sound calls d)
    (trusted : ∀ e document, (E.send e document).1 ≠ .error .sessionClosed) {err : EngineError}
    (fails : (d.entry E c).finding = .response (.error err)) :
    .shutdown ∈ calls ∧ err = .sessionClosed ∧ (d.entry E c).traffic = [] := by
  have runs := executes_of_response fails
  obtain ⟨before, refused, quiet⟩ | ⟨_, e, document, told, _⟩ := h.executes_cases (E := E) runs
  · rw [refused] at fails
    cases fails
    exact ⟨before, rfl, quiet⟩
  · rw [told] at fails
    -- The engine would have said that the session is closed.
    have closed := reported_eq_error (Finding.response.inj fails)
    exact absurd (readAnswer_eq_sessionClosed.mp closed) (trusted e document)

end Diary

/-! ## Whole runs -/

theorem map_play (E : Engine ε) (d : Diary ε) (calls : List Call) :
    (d.play E calls).session.map Taped.engine = (d.session.map Taped.engine).after E calls := by
  induction calls generalizing d with
  | nil => rfl
  | cons c calls ih =>
    -- The first call commutes with the removal of the tape, the others by induction.
    change ((d.write E c).play E calls).session.map _ = after E (call E _ c).2 calls
    rw [ih, map_call E.taped_simulates]
    rfl

theorem start_opened {e : ε} {header : Option String} {seconds : Nat} {s : Session ε}
    (started : start E e header seconds = .opened s) :
    s = (withEngine e).after E (header.toList.map .execute) := by
  cases header with
  | none =>
    cases started
    rfl
  | some code =>
    change (withEngine e).prepare E (some code) seconds = .opened s at started
    have acquired : (withEngine e).handle.acquire = .ok e := rfl
    simp only [prepare, acquired] at started
    -- Late, failed and loaded: only the last way ends with an open session.
    cases inTime : E.answersWithin e (Command.document ⟨code, (withEngine e).env⟩) (seconds * 1000) with
    | false =>
      simp only [inTime] at started
      cases started
    | true =>
      simp only [inTime, if_true] at started
      cases failed : headerFailure ((withEngine e).execute E code).1 with
      | none =>
        rw [failed] at started
        cases started
        rfl
      | some failure =>
        rw [failed] at started
        cases started

/-- The environment of a session on a running engine, after any calls and through any further call.
    The engine may answer as it likes, but only the session says that it is closed.  The diary is
    that of the session without a tape, and a header is an execution like others.  The environment
    is that of the last execution that brought one: only the success of an execution moves it, and
    never away.  An open session sends the command of the call and no other, a closed one nothing;
    executions fail after a shutdown, and only then. -/
theorem environment_chain (E : Engine ε)
    (trusted : ∀ e document, (E.send e document).1 ≠ .error .sessionClosed) (e : ε)
    (calls : List Call) :
    let d := (Diary.opened e).play E calls
    d.session.map Taped.engine = (withEngine e).after E calls ∧
    (∀ header seconds s, start E e header seconds = .opened s →
      s = (withEngine e).after E (header.toList.map .execute)) ∧
    d.entries.map Entry.call = calls ∧
    d.session.env = Diary.lastEnv d.entries ∧
    ∀ c,
      let en := d.entry E c
      let next := (d.write E c).session
      (.shutdown ∉ calls →
        en.traffic.filterMap Traffic.document? =
          (c.command? d.session.env).toList.map Command.document) ∧
      (.shutdown ∈ calls → en.traffic = []) ∧
      next.env = (en.env? <|> d.session.env) ∧
      (∀ r, en.finding = .response (.ok r) → en.env? = r.env) ∧
      ((∀ r, en.finding ≠ .response (.ok r)) → next.env = d.session.env) ∧
      (d.session.env.isSome → next.env.isSome) ∧
      (c.executes → ((∃ err, en.finding = .response (.error err)) ↔ .shutdown ∈ calls)) ∧
      (∀ err, en.finding = .response (.error err) → err = .sessionClosed ∧ en.traffic = []) := by
  intro d
  have sound : Diary.Sound calls d := Diary.sound_play E e calls
  refine ⟨map_play E _ calls, fun _ _ _ => start_opened, sound.asked, sound.env, fun c => ?_⟩
  intro en next
  have moves : next.env = (en.env? <|> d.session.env) := sound.env_write
  refine ⟨sound.documents, sound.silent, moves, fun r => sound.env?_of_ok, ?_, ?_, ?_, ?_⟩
  · intro nothing
    rw [moves, sound.env?_eq_none nothing]
    rfl
  · intro some_
    rw [moves]
    cases en.env? with
    | none => exact some_
    | some n => rfl
  · intro runs
    constructor
    · rintro ⟨err, fails⟩
      exact (sound.of_error trusted fails).1
    · intro before
      obtain ⟨_, refused, _⟩ | ⟨never, _⟩ := sound.executes_cases (E := E) runs
      · exact ⟨_, refused⟩
      · exact absurd before never
  · exact fun err fails => (sound.of_error trusted fails).2

theorem canned_send_ne_sessionClosed (e : Canned) (document : String) :
    (Canned.engine.send e document).1 ≠ .error .sessionClosed := by
  change (Canned.send e document).1 ≠ .error .sessionClosed
  simp only [Canned.send]
  split
  · simp
  · split <;> simp

/-- The failure in the middle is passed over. -/
theorem environment_chain_canned :
    let answers := [("f", CannedAnswer.failure "broken"), ("g", .document "oops")]
    let calls := [Call.execute "x", .execute "f", .executeIn "y" (some 0), .execute "g", .shutdown]
    (∀ e document, (Canned.engine.send e document).1 ≠ .error .sessionClosed) ∧
      ((Diary.opened (Canned.fresh answers)).play Canned.engine calls).session.env = some 1 := by
  intro answers calls
  have chain := environment_chain Canned.engine canned_send_ne_sessionClosed (Canned.fresh answers) calls
  refine ⟨canned_send_ne_sessionClosed, chain.2.2.2.1.trans ?_⟩
  decide +kernel

end NotebookKernel.Session
