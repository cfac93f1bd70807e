import NotebookKernel.Proofs.Cell.Run
import NotebookKernel.Proofs.Session.Reached

/-! # What an inspection sends

Of a cell nothing but the word at the cursor reaches the engine, and it does so behind `#check `,
in the current environment.  A word holds no separator, so no other command can be smuggled in.
Whatever the engine answers, the session is left as it was.
-/

namespace NotebookKernel.Session

variable {ε : Type}

theorem inspected_readAnswer_eq_error {name : String} {answer : Except EngineError String}
    {err : EngineError} :
    inspected name (readAnswer answer) = .error err ↔
      err = .sessionClosed ∧ answer = .error .sessionClosed := by
  rw [← readAnswer_eq_sessionClosed]
  cases readAnswer answer with
  | ok r => simp [inspected]
  | error failure =>
    cases failure with
    | sessionClosed => simp [inspected, eq_comm]
    | _ => simp [inspected]

/-! ## With and without a word -/

section Inspect

variable {E : Engine ε} {code : String} {cursor : Nat}

/-- Without an engine or without a word there is nothing to do. -/
theorem Standing.inspect_quiet {s : Session ε} (h : s.Standing)
    (quiet : s.isClosed = true ∨ ¬ Cell.Touches code.toList cursor) :
    (s.inspect E code cursor).2 = s ∧
      ∀ err, (s.inspect E code cursor).1 = .error err ↔
        err = .sessionClosed ∧ s.isClosed = true := by
  cases closed : s.isClosed with
  | true =>
    rw [inspect_of_closed closed]
    simp [eq_comm]
  | false =>
    obtain ⟨e, handle⟩ := h.running_iff.mp closed
    have slot : s.handle.slot = some e := by rw [handle]; rfl
    have apart : ¬ Cell.Touches code.toList cursor := quiet.resolve_left (by simp [closed])
    rw [inspect_of_slot slot closed, if_pos ((Cell.Span.isEmpty_iff _ _).mpr apart)]
    simp

/-- The word at the cursor is sent to be checked, and the tape says so. -/
theorem Standing.inspect_asks {s : Session (Taped ε)} (h : s.Standing)
    (running : s.isClosed = false) (touches : Cell.Touches code.toList cursor) :
    let name := (Cell.Span.at code.toList cursor).name
    let document := (checkCommand name s.env).document
    ∃ e answer engine, s.handle = .ready e ∧ E.send e.engine document = (answer, engine) ∧
      s.inspect E.taped code cursor =
        (inspected name (readAnswer answer),
          { s with handle := .ready (e.note engine (.sent document answer)) }) := by
  obtain ⟨e, handle⟩ := h.running_iff.mp running
  have slot : s.handle.slot = some e := by rw [handle]; rfl
  have word : ¬ (Cell.Span.at code.toList cursor).isEmpty = true := fun empty =>
    (Cell.Span.isEmpty_iff _ _).mp empty touches
  refine ⟨e, _, _, handle, rfl, ?_⟩
  rw [inspect_of_slot slot running, if_neg word, handle]
  rfl

end Inspect

/-! ## One command at most -/

/-- An inspection sends the word at the cursor to be checked, and nothing else.  There is one word
    at the cursor, which may be empty, and no separator is part of it.  Nothing is sent if the
    session is closed or no word is touched, and otherwise one command, which depends on the word
    and the environment alone; the session stays as it was.  The inspection fails on a closed
    session, and if the engine itself says that the session is closed.  An engine without a tape
    behaves no differently. -/
theorem inspection_sends_one_word (E : Engine ε) {s : Session (Taped ε)}
    (reached : s.Reached E.taped) (code : String) (cursor : Nat) :
    let told := (s.inspect E.taped code cursor).1
    let next := (s.inspect E.taped code cursor).2
    (∃ before word after, Cell.Run code.toList cursor before word after) ∧
    ∀ before word after, Cell.Run code.toList cursor before word after →
      (∀ c ∈ word, ¬ Cell.IsSeparator c) ∧
      ∃ traffic, next.tape = s.tape ++ traffic ∧
        (s.isClosed = true ∨ ¬ Cell.Touches code.toList cursor → traffic = []) ∧
        (s.isClosed = false → Cell.Touches code.toList cursor → ∃ answer,
          traffic = [.sent (Command.document ⟨"#check " ++ String.ofList word, s.env⟩) answer]) ∧
        next.env = s.env ∧ next.handle.phase = s.handle.phase ∧
        (∀ err, told = .error err ↔ err = .sessionClosed ∧
          (s.isClosed = true ∨ ∃ document, traffic = [.sent document (.error .sessionClosed)])) ∧
        (s.map Taped.engine).inspect E code cursor = (told, next.map Taped.engine) := by
  intro told next
  have standing := reached.standing
  obtain ⟨before, after, found⟩ := Cell.Span.exists_run code.toList cursor
  refine ⟨⟨_, _, _, found⟩, fun before word after run => ⟨fun c => run.not_isSeparator, ?_⟩⟩
  have untaped : (s.map Taped.engine).inspect E code cursor = (told, next.map Taped.engine) :=
    map_inspect E.taped_simulates s code cursor
  -- An inspection is silent for two reasons; otherwise it is one exchange.
  by_cases quiet : s.isClosed = true ∨ ¬ Cell.Touches code.toList cursor
  · obtain ⟨same, fails⟩ := standing.inspect_quiet (E := E.taped) quiet
    have unchanged : next = s := same
    refine ⟨[], ?_, fun _ => rfl, ?_, ?_, ?_, ?_, untaped⟩
    · rw [unchanged, List.append_nil]
    · intro running touches
      rw [running] at quiet
      exact absurd touches (quiet.resolve_left Bool.false_ne_true)
    · rw [unchanged]
    · rw [unchanged]
    · intro err
      rw [fails]
      simp
  · obtain ⟨running, touches⟩ := not_or.mp quiet
    rw [not_not] at touches
    obtain ⟨e, answer, engine, handle, -, asked⟩ :=
      standing.inspect_asks (E := E) (Bool.eq_false_iff.mpr running) touches
    rw [Cell.Span.name, run.text_eq] at asked
    refine ⟨[.sent _ answer], ?_, fun silent => absurd silent quiet, fun _ _ => ⟨answer, rfl⟩,
      ?_, ?_, ?_, untaped⟩
    · simp only [next, asked]
      rw [Diary.tape_of_ready rfl, Diary.tape_of_ready handle]
      rfl
    · simp only [next, asked]
    · simp only [next, asked, handle]
      rfl
    · intro err
      simp only [told, asked, inspected_readAnswer_eq_error]
      simp [running]

/-- A prime is part of the word, the bracket in front of it is not. -/
theorem inspection_sends_one_word_primed :
    let s := withEngine (⟨Canned.fresh [("#check h'", .failure "broken")], []⟩ : Taped Canned)
    s.Reached Canned.engine.taped ∧
    (∃ answer, (s.inspect Canned.engine.taped "f (h' )" 4).2.tape =
      [.sent "\x7b\"cmd\":\"#check h'\"\x7d" answer]) ∧
    (s.inspect Canned.engine.taped "f (h' )" 4).2.env = none ∧
    (s.inspect Canned.engine.taped "f (h' )" 4).2.handle.phase = .ready := by
  intro s
  have reached : s.Reached Canned.engine.taped := .running _
  have fresh : s.tape = [] ∧ s.env = none ∧ s.handle.phase = .ready := ⟨rfl, rfl, rfl⟩
  have run : Cell.Run "f (h' )".toList 4 ['f', ' ', '('] ['h', '\''] [' ', ')'] := {
    cut := by decide
    start_le := by decide
    le_stop := by decide
    inside := List.all_eq_true.mp (by decide)
    left := by
      rintro c ⟨⟩
      decide
    right := by
      rintro c ⟨⟩
      decide }
  have document : Command.document ⟨"#check " ++ String.ofList ['h', '\''], none⟩ =
      "\x7b\"cmd\":\"#check h'\"\x7d" := by decide +kernel
  obtain ⟨-, words⟩ := inspection_sends_one_word Canned.engine reached "f (h' )" 4
  obtain ⟨-, traffic, tape, -, sends, env, phase, -, -⟩ := words _ _ _ run
  obtain ⟨answer, sent⟩ := sends rfl (run.touches_iff.mpr (by decide))
  rw [sent, fresh.1, fresh.2.1, document] at tape
  exact ⟨reached, ⟨answer, tape⟩, env.trans fresh.2.1, phase.trans fresh.2.2⟩

/-- An engine that calls the session closed is believed, although the session is open. -/
theorem open_session_told_closed :
    let e : Rehearsal :=
      { canned := .fresh [], errors := [("#check x", .sessionClosed)], delays := [], sent := [] }
    let s := withEngine e
    s.Reached Rehearsal.engine ∧
    (s.inspect Rehearsal.engine "x" 0).1 = .error .sessionClosed ∧
    s.isClosed = false ∧ (s.inspect Rehearsal.engine "x" 0).2.isClosed = false := by
  intro e s
  exact ⟨.running e, by decide +kernel⟩

end NotebookKernel.Session
