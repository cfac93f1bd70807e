import NotebookKernel.Opening
import NotebookKernel.Proofs.Session.EnvironmentChain

/-! # The sessions that there are

A session begins on a running engine and is then called, at times in vain, and given other words
to offer.  `Reached` collects what comes of that.  All of it is `Standing`: the handle has its
engine until it is closed, and a closed handle has none.
-/

namespace NotebookKernel.Session

variable {ε : Type}

/-- The sessions that can come about. -/
inductive Reached (E : Engine ε) : Session ε → Prop
  | running (e : ε) : Reached E (withEngine e)
  | called {s : Session ε} (c : Call) (earlier : Reached E s) : Reached E (s.call E c).2
  /-- An exchange was given up by the caller. -/
  | interrupted {s : Session ε} {e : ε} (slot : s.handle.slot = some e) (document : String)
      (millis : Nat) (earlier : Reached E s) :
      Reached E { s with handle := s.handle.putBack (E.interrupt e document millis) }
  | reworded {s : Session ε} (vocabulary : Cell.Vocabulary) (earlier : Reached E s) :
      Reached E { s with vocabulary }

/-- A session with its engine, or shut down and without one. -/
inductive Standing (s : Session ε) : Prop
  | running (e : ε) (handle : s.handle = .ready e)
  | ended (retired : List ε) (handle : s.handle = { phase := .closed, slot := none, retired })

variable {E : Engine ε} {s : Session ε}

/-! ## Standing sessions -/

theorem Standing.running_iff (h : s.Standing) : s.isClosed = false ↔ ∃ e, s.handle = .ready e := by
  cases h with
  | running e handle => simp [isClosed, handle, Handle.ready]
  | ended retired handle => simp [isClosed, handle, Handle.ready]

theorem Standing.of_closed (h : s.Standing) (closed : s.isClosed = true) :
    ∃ retired, s.handle = { phase := .closed, slot := none, retired } := by
  cases h with
  | running e handle => simp [isClosed, handle, Handle.ready] at closed
  | ended retired handle => exact ⟨retired, handle⟩

theorem Standing.call (h : s.Standing) (c : Call) : (s.call E c).2.Standing := by
  cases h with
  | running e handle =>
    cases command : c.command? s.env with
    | some m =>
      rw [call_of_command handle command]
      exact .running _ rfl
    | none =>
      by_cases going : c = .shutdown
      · rw [going]
        refine .ended [E.shutdown e] ?_
        simp only [Session.call, shutdown, Handle.close, handle, Handle.ready]
      · rw [call_of_no_command handle command going]
        exact .running e handle
  | ended retired handle =>
    rw [call_of_closed handle]
    exact .ended retired handle

/-- Only a shutdown closes a session, and nothing opens it again. -/
theorem Standing.isClosed_call (h : s.Standing) (c : Call) :
    (s.call E c).2.isClosed = true ↔ s.isClosed = true ∨ c = .shutdown := by
  cases h with
  | running e handle =>
    have running : s.isClosed = false := by rw [isClosed, handle]; rfl
    cases command : c.command? s.env with
    | some m =>
      have going : c ≠ .shutdown := by
        rintro rfl
        cases command
      rw [call_of_command handle command]
      simp [isClosed, Handle.ready, handle, going]
    | none =>
      by_cases going : c = .shutdown
      · simp [going, Session.call, shutdown, Handle.close, handle, Handle.ready, isClosed]
      · rw [call_of_no_command handle command going]
        simp [running, going]
  | ended retired handle =>
    have closed : s.isClosed = true := by rw [isClosed, handle]; rfl
    rw [call_of_closed handle]
    simp [closed]

theorem Reached.standing (reached : s.Reached E) : s.Standing := by
  induction reached with
  | running e => exact .running e rfl
  | called c _ ih => exact ih.call c
  | @interrupted s e slot document millis _ ih =>
    cases ih with
    | running _ handle =>
      refine .running (E.interrupt e document millis) ?_
      rw [handle]
      rfl
    | ended retired handle =>
      rw [handle] at slot
      cases slot
  | reworded vocabulary _ ih =>
    cases ih with
    | running e handle => exact .running e handle
    | ended retired handle => exact .ended retired handle

/-- What can come about can come about with a tape. -/
theorem Reached.exists_taped (reached : s.Reached E) :
    ∃ t : Session (Taped ε), t.Reached E.taped ∧ t.map Taped.engine = s := by
  induction reached with
  | running e => exact ⟨_, .running ⟨e, []⟩, rfl⟩
  | called c _ ih =>
    obtain ⟨t, taped, rfl⟩ := ih
    refine ⟨_, .called c taped, ?_⟩
    rw [map_call E.taped_simulates]
  | @interrupted s e slot document millis _ ih =>
    obtain ⟨t, taped, rfl⟩ := ih
    obtain ⟨u, held, rfl⟩ := Option.map_eq_some_iff.mp slot
    exact ⟨_, .interrupted held document millis taped, rfl⟩
  | reworded vocabulary _ ih =>
    obtain ⟨t, taped, rfl⟩ := ih
    exact ⟨_, .reworded vocabulary taped, rfl⟩

/-! ## Started sessions -/

theorem Reached.after (reached : s.Reached E) (calls : List Call) :
    (s.after E calls).Reached E := by
  induction calls generalizing s with
  | nil => exact reached
  | cons c calls ih => exact ih (.called c reached)

theorem reached_of_start {e : ε} {header : Option String} {seconds : Nat}
    (started : start E e header seconds = .opened s) : s.Reached E := by
  rw [start_opened started]
  exact Reached.after (.running e) _

theorem reached_of_openAt {cell cell' : Once Runtime} {files : Files}
    {spawn : Launch → Except FileError ε} {l : Launch}
    (opened : openAt E cell files spawn l = (.opened s, cell')) : s.Reached E := by
  unfold openAt at opened
  split at opened
  · cases opened
  · next runtime _ _ =>
    cases spawned : spawn (runtime.launch l) with
    | error failure =>
      simp only [spawned] at opened
      cases opened
    | ok e =>
      simp only [spawned] at opened
      exact reached_of_start (congrArg Prod.fst opened)

end NotebookKernel.Session
