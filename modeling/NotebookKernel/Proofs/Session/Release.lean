import NotebookKernel.Proofs.Session.Diary

/-! # The release of an engine

The tape of a session's engine has one of two forms.  Until the session is shut down there are
only exchanges on it; from then on it ends with the one release, and nothing follows.
-/

namespace NotebookKernel.Session

variable {ε : Type}

/-- Nothing but exchanges has passed between the session and its engine. -/
def Engaged (s : Session (Taped ε)) : Prop :=
  ∃ e, s.handle = .ready e ∧ ∀ t ∈ e.tape, t.document?.isSome

/-- The engine has been released, and what passed before were exchanges. -/
def Released (s : Session (Taped ε)) : Prop :=
  ∃ e exchanges, s.handle = { phase := .closed, slot := none, retired := [e] } ∧
    e.tape = exchanges ++ [.released] ∧ ∀ t ∈ exchanges, t.document?.isSome

variable {E : Engine ε} {s : Session (Taped ε)}

theorem Released.tape (h : s.Released) :
    ∃ exchanges, s.tape = exchanges ++ [.released] ∧ ∀ t ∈ exchanges, t.document?.isSome := by
  obtain ⟨e, exchanges, closed, tape, only⟩ := h
  refine ⟨exchanges, ?_, only⟩
  rw [← tape]
  exact Diary.tape_of_engines (by rw [closed]; rfl)

/-! ## Calls before the release -/

theorem Engaged.call (h : s.Engaged) {c : Call} (going : c ≠ .shutdown) :
    (s.call E.taped c).2.Engaged ∧ ∃ exchanges, (s.call E.taped c).2.tape = s.tape ++ exchanges ∧
      ∀ t ∈ exchanges, t.document?.isSome := by
  obtain ⟨e, open_, only⟩ := h
  cases command : c.command? s.env with
  | none =>
    rw [call_of_no_command open_ command going]
    exact ⟨⟨e, open_, only⟩, [], (List.append_nil _).symm, by simp⟩
  | some m =>
    rw [call_of_command open_ command, Diary.tape_of_ready open_]
    refine ⟨⟨_, rfl, ?_⟩, [.sent m.document (E.send e.engine m.document).1], ?_, ?_⟩
    · intro t member
      obtain old | new := List.mem_append.mp member
      · exact only t old
      · rw [List.mem_singleton.mp new]
        rfl
    · exact Diary.tape_of_ready (e := e.note (E.send e.engine m.document).2 _) rfl
    · intro t member
      rw [List.mem_singleton.mp member]
      rfl

theorem shutdown_of_ready {e : Taped ε} (open_ : s.handle = .ready e) :
    s.shutdown E.taped = (true, { s with
      handle :=
        { phase := .closed, slot := none, retired := [e.note (E.shutdown e.engine) .released] } }) := by
  simp only [Session.shutdown, Handle.close, open_, Handle.ready]
  rfl

theorem tape_shutdown {e : Taped ε} (open_ : s.handle = .ready e) :
    (s.shutdown E.taped).2.tape = s.tape ++ [.released] := by
  rw [shutdown_of_ready open_, Diary.tape_of_ready open_]
  exact Diary.tape_of_engines (e := e.note (E.shutdown e.engine) .released) rfl

theorem Engaged.shutdown (h : s.Engaged) :
    (s.shutdown E.taped).1 = true ∧ (s.shutdown E.taped).2.Released ∧
      (s.shutdown E.taped).2.tape = s.tape ++ [.released] := by
  obtain ⟨e, open_, only⟩ := h
  refine ⟨?_, ?_, tape_shutdown open_⟩
  · rw [shutdown_of_ready open_]
  · rw [shutdown_of_ready open_]
    exact ⟨_, e.tape, rfl, rfl, only⟩

/-! ## Calls after the release -/

theorem Released.call (h : s.Released) (c : Call) : (s.call E.taped c).2 = s := by
  obtain ⟨e, exchanges, closed, _⟩ := h
  exact call_of_closed closed

theorem Released.shutdown (h : s.Released) : s.shutdown E.taped = (false, s) := by
  obtain ⟨e, exchanges, closed, _⟩ := h
  obtain ⟨handle, env, vocabulary⟩ := s
  subst closed
  rfl

end NotebookKernel.Session
