import NotebookKernel.Proofs.Cell.Run

/-! # The span at a cursor

`Encloses` describes the ends of the identifier at a cursor as offsets, with no search and no
second cut of the cell.  The ends that `Span.at` finds are the only ones there are, and they do not
depend on where in the identifier the cursor stands.
-/

namespace NotebookKernel.Cell

variable {cs before text after : List Char} {cursor start stop : Nat}

/-- Offsets around a cursor with identifier characters only between them, which cannot be moved
    apart. -/
structure Encloses (cs : List Char) (cursor start stop : Nat) : Prop where
  start_le : start ≤ place cs cursor
  le_stop : place cs cursor ≤ stop
  stop_le : stop ≤ cs.length
  inside : ∀ i, start ≤ i → i < stop → IdentifierAt cs i
  left : ∀ i, i + 1 = start → ¬ IdentifierAt cs i
  right : ¬ IdentifierAt cs stop

/-! ## Uniqueness -/

namespace Encloses

variable {start' stop' : Nat}

/-- What stands in front of one pair would stand inside a pair that starts earlier. -/
theorem start_le_start (h : Encloses cs cursor start stop) (h' : Encloses cs cursor start' stop') :
    start ≤ start' := by
  by_contra later
  have := h.start_le
  have := h'.le_stop
  apply h.left (start - 1) (by omega)
  exact h'.inside _ (by omega) (by omega)

/-- What stands behind one pair would stand inside a pair that stops later. -/
theorem stop_le_stop (h : Encloses cs cursor start stop) (h' : Encloses cs cursor start' stop') :
    stop' ≤ stop := by
  by_contra later
  have := h.le_stop
  have := h'.start_le
  apply h.right
  exact h'.inside _ (by omega) (by omega)

theorem unique (h : Encloses cs cursor start stop) (h' : Encloses cs cursor start' stop') :
    start = start' ∧ stop = stop' :=
  ⟨Nat.le_antisymm (h.start_le_start h') (h'.start_le_start h),
    Nat.le_antisymm (h'.stop_le_stop h) (h.stop_le_stop h')⟩

end Encloses

/-! ## The ends of a run -/

theorem exists_cut (cs : List Char) (cursor : Nat) :
    ∃ before text after, Run cs cursor before text after := by
  obtain ⟨before, after, run⟩ := Span.exists_run cs cursor
  exact ⟨before, _, after, run⟩

namespace Run

theorem stop_le_length (h : Run cs cursor before text after) :
    before.length + text.length ≤ cs.length := by
  simp [h.cut]

theorem encloses (h : Run cs cursor before text after) :
    Encloses cs cursor before.length (before.length + text.length) where
  start_le := h.start_le
  le_stop := h.le_stop
  stop_le := h.stop_le_length
  inside _ := h.identifierAt
  left := by
    intro i last identifier
    have same : i = before.length - 1 := by omega
    rw [same] at identifier
    exact h.not_identifierAt_left (by omega) identifier
  right := h.not_identifierAt_right

theorem slice (h : Run cs cursor before text after) :
    (cs.take (before.length + text.length)).drop before.length = text := by
  rw [h.cut, ← List.length_append, List.take_left, List.drop_left]

/-- A run is one at every cursor that touches it. -/
theorem moved (h : Run cs cursor before text after) {cursor' : Nat} (start : before.length ≤ cursor')
    (stop : cursor' ≤ before.length + text.length) : Run cs cursor' before text after := by
  have here : place cs cursor' = cursor' := Nat.min_eq_left (stop.trans h.stop_le_length)
  exact { h with start_le := here.symm ▸ start, le_stop := here.symm ▸ stop }

end Run

/-! ## The span -/

theorem Span.at_bounds (cs : List Char) (cursor : Nat) :
    (Span.at cs cursor).start ≤ cs.length ∧ (Span.at cs cursor).stop ≤ cs.length := by
  obtain ⟨before, text, after, run⟩ := exists_cut cs cursor
  have bound := run.stop_le_length
  rw [run.span_eq]
  exact ⟨Nat.le_of_add_right_le bound, bound⟩

/-- A span is the one maximal run of identifier characters around the cursor, and that of every
    cursor in it. -/
theorem span_is_maximal_run (cs : List Char) (cursor : Nat) :
    Encloses cs cursor (Span.at cs cursor).start (Span.at cs cursor).stop ∧
    (Span.at cs cursor).text = (cs.take (Span.at cs cursor).stop).drop (Span.at cs cursor).start ∧
    (∀ start stop, Encloses cs cursor start stop →
      start = (Span.at cs cursor).start ∧ stop = (Span.at cs cursor).stop) ∧
    ∀ cursor', (Span.at cs cursor).start ≤ cursor' → cursor' ≤ (Span.at cs cursor).stop →
      Span.at cs cursor' = Span.at cs cursor := by
  obtain ⟨before, text, after, run⟩ := exists_cut cs cursor
  rw [run.span_eq]
  refine ⟨run.encloses, run.slice.symm, ?_, ?_⟩
  · intro start stop h
    exact h.unique run.encloses
  · intro cursor' start stop
    exact (run.moved start stop).span_eq

/-- Letters count once, however many bytes they take, and a prime belongs to the word. -/
theorem span_is_maximal_run_greek :
    let cs := "∀ αβ' x".toList
    Encloses cs 3 2 5 ∧ Span.at cs 3 = ⟨['α', 'β', '\''], 2, 5⟩ ∧ Span.at cs 5 = Span.at cs 3 := by
  intro cs
  have run : Run cs 3 ['∀', ' '] ['α', 'β', '\''] [' ', 'x'] := {
    cut := by decide
    start_le := by decide
    le_stop := by decide
    inside := List.all_eq_true.mp (by decide +kernel)
    left := by
      rintro c ⟨⟩
      decide +kernel
    right := by
      rintro c ⟨⟩
      decide +kernel }
  obtain ⟨-, slice, only, everywhere⟩ := span_is_maximal_run cs 3
  obtain ⟨start, stop⟩ := only 2 5 run.encloses
  rw [← start, ← stop] at slice everywhere
  have found : Span.at cs 3 = ⟨(Span.at cs 3).text, (Span.at cs 3).start, (Span.at cs 3).stop⟩ := rfl
  rw [slice, ← start, ← stop] at found
  exact ⟨run.encloses, found, everywhere 5 (by decide) (by decide)⟩

end NotebookKernel.Cell
