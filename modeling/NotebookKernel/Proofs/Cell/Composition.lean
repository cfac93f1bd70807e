import NotebookKernel.Proofs.Cell.Contents

/-! # Cells put together

Cells that are joined by newlines are scanned one after the other: a newline ends a comment, and
behind it the scanner goes on as from the start, except for the depths, which add up.  So complete
cells make up a complete one, unless `by` is among their words; a cell that leaves a literal open
takes the newline into the literal.
-/

namespace NotebookKernel.Cell

open NotebookKernel.Text (isBlank trimEnd trimEnd_append_blanks trimEnd_ne_nil_iff)

/-! ## What the verdict takes from the scanner -/

/-- The net depth of a kind of bracket behind a cell, the blanks at its end left out. -/
def netDepth (k : Bracket) (cs : List Char) : Int :=
  (scan .code .zero (trimEnd cs)).2.of k

/-- Whether a cell, the blanks at its end left out, ends inside a string literal. -/
def endsInLiteral (cs : List Char) : Bool :=
  (scan .code .zero (trimEnd cs)).1.isLiteral

theorem scan_of (cs : List Char) (k : Bracket) : (scan .code .zero cs).2.of k = netDepth k cs := by
  rw [netDepth, (scan_trimEnd .zero cs).2]

theorem scan_isLiteral (cs : List Char) : (scan .code .zero cs).1.isLiteral = endsInLiteral cs :=
  (scan_trimEnd .zero cs).1

/-- The depths at the start are carried along, and nothing else depends on them. -/
theorem scan_from (d : Depths) (cs : List Char) :
    (scan .code d cs).1.isLiteral = endsInLiteral cs ∧
      ∀ k, (scan .code d cs).2.of k = d.of k + netDepth k cs := by
  obtain ⟨r⟩ := exists_reading cs
  obtain ⟨literal, counts⟩ := scan_pieces d r.fitting
  obtain ⟨literal', counts'⟩ := scan_pieces .zero r.fitting
  rw [r.text] at literal counts literal' counts'
  constructor
  · rw [← scan_isLiteral, Bool.eq_iff_iff, literal, literal']
  · intro k
    rw [← scan_of, counts, counts', Depths.zero_of, Int.zero_add]

/-! ## Two cells -/

section TwoCells

variable {front : List Char} (outside : endsInLiteral front = false) (rest : List Char)
include outside

theorem scan_two_cells :
    scan .code .zero (front ++ '\n' :: rest) = scan .code (scan .code .zero front).2 rest := by
  apply scan_newline
  rw [scan_isLiteral, outside]

theorem netDepth_append (k : Bracket) :
    netDepth k (front ++ '\n' :: rest) = netDepth k front + netDepth k rest := by
  rw [← scan_of, scan_two_cells outside, (scan_from _ rest).2, scan_of]

theorem endsInLiteral_append : endsInLiteral (front ++ '\n' :: rest) = endsInLiteral rest := by
  rw [← scan_isLiteral, scan_two_cells outside, (scan_from _ rest).1]

end TwoCells

/-! ## Complete cells without `by` -/

/-- What makes a cell without `by` complete. -/
structure Composable (cs : List Char) : Prop where
  silent : ¬ ['b', 'y'] <:+: cs
  solid : ∃ c ∈ cs, isBlank c = false
  outside : endsInLiteral cs = false
  level : ∀ k, netDepth k cs ≤ 0

theorem mentionsBy_trimEnd {cs : List Char} (silent : ¬ ['b', 'y'] <:+: cs) :
    mentionsBy (trimEnd cs) = false := by
  obtain ⟨blanks, -, whole⟩ := trimEnd_append_blanks cs
  rw [← Bool.not_eq_true, mentionsBy_iff]
  intro mentioned
  apply silent
  rw [← whole]
  exact mentioned.trans (List.prefix_append _ _).isInfix

theorem composable_iff {cs : List Char} :
    Composable cs ↔ ¬ ['b', 'y'] <:+: cs ∧ completeness cs = .complete := by
  obtain ⟨q⟩ := exists_reading (trimEnd cs)
  rw [completeness_complete q, q.finished_iff, trimEnd_ne_nil_iff,
    Depths.isOpen_eq_false_iff]
  constructor
  · intro c
    refine ⟨c.silent, c.solid, ⟨c.outside, c.level⟩, ?_⟩
    simp [mentionsBy_trimEnd c.silent]
  · rintro ⟨silent, solid, ⟨outside, level⟩, -⟩
    exact ⟨silent, solid, outside, level⟩

theorem Composable.append {front rest : List Char} (first : Composable front)
    (second : Composable rest) : Composable (front ++ '\n' :: rest) where
  silent := by
    have apart : ('\n' :: rest).head? ≠ some 'y' := by simp
    have silent := first.silent
    have silent' := second.silent
    rw [← mentionsBy_iff] at silent silent' ⊢
    rw [mentionsBy_append front apart, mentionsBy_cons (by decide)]
    simp [silent, silent']
  solid := by
    obtain ⟨c, member, visible⟩ := second.solid
    exact ⟨c, by simp [member], visible⟩
  outside := by
    rw [endsInLiteral_append first.outside, second.outside]
  level := by
    intro k
    rw [netDepth_append first.outside]
    have := first.level k
    have := second.level k
    omega

theorem Composable.join {cells : List (List Char)} (some_ : cells ≠ [])
    (each : ∀ cell ∈ cells, Composable cell) : Composable (['\n'].intercalate cells) := by
  induction cells with
  | nil => contradiction
  | cons cell more ih =>
    have here := each cell (by simp)
    cases more with
    | nil => rwa [List.intercalate_singleton]
    | cons next more =>
      rw [List.intercalate_cons_cons, List.append_assoc, List.singleton_append]
      exact here.append (ih (by simp) fun cell member => each cell (by simp [member]))

/-! ## The verdict on cells that are joined -/

/-- Complete cells make up a complete one, since depths add up and a literal that is left open comes
    from the last cell.  Blanks at the end of a cell are not scanned and make no difference. -/
theorem complete_cells_compose :
    (∀ cells : List (List Char), cells ≠ [] →
      (∀ cell ∈ cells, ¬ ['b', 'y'] <:+: cell ∧ completeness cell = .complete) →
      completeness (['\n'].intercalate cells) = .complete) ∧
    (∀ front rest : List Char, endsInLiteral front = false →
      (∀ k, netDepth k (front ++ '\n' :: rest) = netDepth k front + netDepth k rest) ∧
        endsInLiteral (front ++ '\n' :: rest) = endsInLiteral rest) ∧
    ∀ cs : List Char, (∀ k, (scan .code .zero cs).2.of k = netDepth k cs) ∧
      (scan .code .zero cs).1.isLiteral = endsInLiteral cs := by
  refine ⟨?_, ?_, ?_⟩
  · intro cells some_ each
    have composable := Composable.join some_ fun cell member => composable_iff.mpr (each cell member)
    exact (composable_iff.mp composable).2
  · intro front rest outside
    exact ⟨netDepth_append outside rest, endsInLiteral_append outside rest⟩
  · intro cs
    exact ⟨scan_of cs, scan_isLiteral cs⟩

/-- A comment with a quote and a bracket, the letters of `by` and two dashes on either side of a
    newline, a surplus closing bracket; and a literal that the second of two cells leaves open. -/
theorem complete_cells_compose_torn :
    let cells := ["x -- \"(b".toList, "y) -".toList, "- 1  ".toList]
    let front := "x) -- (".toList
    let rest := "[(\"".toList
    ((∀ cell ∈ cells, ¬ ['b', 'y'] <:+: cell ∧ completeness cell = .complete) ∧
      completeness "x -- \"(b\ny) -\n- 1  ".toList = .complete) ∧
    (endsInLiteral front = false ∧ netDepth .paren (front ++ '\n' :: rest) = -1 + 1 ∧
      netDepth .square (front ++ '\n' :: rest) = 0 + 1 ∧
      endsInLiteral (front ++ '\n' :: rest) = true) := by
  intro cells front rest
  have each : ∀ cell ∈ cells, ¬ ['b', 'y'] <:+: cell ∧ completeness cell = .complete := by
    simp only [← mentionsBy_iff]
    decide +kernel
  have joined := complete_cells_compose.1 cells (by simp [cells]) each
  have whole : ['\n'].intercalate cells = "x -- \"(b\ny) -\n- 1  ".toList := by decide +kernel
  have outside : endsInLiteral front = false := by decide +kernel
  obtain ⟨depths, literal⟩ := complete_cells_compose.2.1 front rest outside
  have counted : netDepth .paren front = -1 ∧ netDepth .paren rest = 1 ∧
      netDepth .square front = 0 ∧ netDepth .square rest = 1 ∧ endsInLiteral rest = true := by
    decide +kernel
  obtain ⟨paren, paren', square, square', opened⟩ := counted
  rw [whole] at joined
  rw [depths, depths, literal, paren, paren', square, square']
  exact ⟨⟨each, joined⟩, outside, rfl, rfl, opened⟩

end NotebookKernel.Cell
