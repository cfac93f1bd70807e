import NotebookKernel.Proofs.Cell.Reading

/-! # When a cell is complete

The verdict on a cell in terms of how it is read: `completeness_eq_complete_iff`.  Brackets are
counted and not paired, so a bracket that is never closed is noticed unless closing brackets in
front of it make up for it: `unclosed_bracket_noticed` and `unclosed_bracket_hidden`.
-/

namespace NotebookKernel.Cell

/-! ## Words and endings -/

theorem mentionsBy_iff {cs : List Char} : mentionsBy cs = true ↔ ['b', 'y'] <:+: cs := by
  induction cs with
  | nil => simp [mentionsBy]
  | cons c rest ih =>
    rw [mentionsBy, Bool.or_eq_true, ih, List.infix_cons_iff]
    refine or_congr_left ?_
    rw [Bool.and_eq_true, beq_iff_eq, beq_iff_eq, List.head?_eq_some_iff]
    constructor
    · rintro ⟨rfl, behind, rfl⟩
      exact ⟨behind, rfl⟩
    · rintro ⟨behind, begins⟩
      cases begins
      exact ⟨rfl, behind, rfl⟩

theorem singleton_suffix_iff {cs : List Char} {c : Char} : [c] <:+ cs ↔ cs.getLast? = some c := by
  rw [List.getLast?_eq_some_iff]
  exact ⟨fun ⟨before, whole⟩ => ⟨before, whole.symm⟩, fun ⟨before, whole⟩ => ⟨before, whole.symm⟩⟩

theorem endsStatement_iff {cs : List Char} :
    endsStatement cs = true ↔ ['.'] <:+ cs ∨ [')'] <:+ cs := by
  rw [singleton_suffix_iff, singleton_suffix_iff]
  simp [endsStatement]

/-! ## Finished texts -/

/-- No literal is left open, and no kind of bracket is opened more often in the code than it is
    closed. -/
def Reading.Finished {cs : List Char} (r : Reading cs) : Prop :=
  ¬ LeavesLiteralOpen r.pieces ∧
    ∀ k : Bracket, (codeOf r.pieces).count k.opener ≤ (codeOf r.pieces).count k.closer

theorem Bracket.surplus_nonpos_iff {k : Bracket} {cs : List Char} :
    k.surplus cs ≤ 0 ↔ cs.count k.opener ≤ cs.count k.closer := by
  unfold surplus
  omega

/-- The scanner finds out whether a text is finished. -/
theorem Reading.finished_iff {cs : List Char} (r : Reading cs) :
    r.Finished ↔
      (scan .code .zero cs).1.isLiteral = false ∧ (scan .code .zero cs).2.isOpen = false := by
  obtain ⟨literal, counts⟩ := scan_pieces .zero r.fitting
  rw [r.text] at literal counts
  rw [Finished, ← literal, Bool.not_eq_true]
  refine and_congr_right fun _ => ?_
  rw [Depths.isOpen_eq_false_iff]
  refine forall_congr' fun k => ?_
  rw [counts, Depths.zero_of, Int.zero_add, Bracket.surplus_nonpos_iff]

theorem Reading.finished_trimEnd {cs : List Char} (r : Reading cs) (q : Reading (Text.trimEnd cs)) :
    r.Finished ↔ q.Finished := by
  obtain ⟨literal, depths⟩ := scan_trimEnd .zero cs
  rw [r.finished_iff, q.finished_iff, literal, depths]

theorem completeness_complete {cs : List Char} (q : Reading (Text.trimEnd cs)) :
    completeness cs = .complete ↔ Text.trimEnd cs ≠ [] ∧ q.Finished ∧
      (mentionsBy (Text.trimEnd cs) = true → endsStatement (Text.trimEnd cs) = true) := by
  rw [q.finished_iff]
  simp only [completeness]
  generalize Text.trimEnd cs = text
  obtain ⟨mode, depths⟩ := scan .code .zero text
  cases text with
  | nil => simp
  | cons c rest => cases depths.isOpen <;> cases mode.isLiteral <;> simp

/-! ## The verdict -/

/-- What makes a cell complete.  A text can be read in exactly one way, with or without the blanks
    at its end, and they make no difference. -/
theorem completeness_eq_complete_iff (cs : List Char) :
    ∃ r : Reading (Text.trimEnd cs), (∀ q : Reading (Text.trimEnd cs), q = r) ∧
      (completeness cs = .complete ↔
        Text.trimEnd cs ≠ [] ∧ r.Finished ∧
          (¬ ['b', 'y'] <:+: Text.trimEnd cs ∨
            ['.'] <:+ Text.trimEnd cs ∨ [')'] <:+ Text.trimEnd cs)) ∧
      ∃ w : Reading cs, (∀ q : Reading cs, q = w) ∧ (w.Finished ↔ r.Finished) := by
  obtain ⟨r⟩ := exists_reading (Text.trimEnd cs)
  obtain ⟨w⟩ := exists_reading cs
  refine ⟨r, fun q => reading_unique q r, ?_, w, fun q => reading_unique q w, w.finished_trimEnd r⟩
  rw [completeness_complete r, mentionsBy_iff, endsStatement_iff, imp_iff_not_or]

/-! ## Brackets that are never closed -/

/-- A bracket is noticed if, from there on, more brackets of its kind are left open than were
    closed in excess before. -/
theorem unclosed_bracket_noticed {cs : List Char} (r : Reading cs) (k : Bracket)
    {before behind : List Char} (parted : codeOf r.pieces = before ++ k.opener :: behind)
    (outnumbered : before.count k.closer - before.count k.opener <
      (k.opener :: behind).count k.opener - (k.opener :: behind).count k.closer) :
    completeness cs = .incomplete := by
  obtain ⟨q⟩ := exists_reading (Text.trimEnd cs)
  have unfinished : ¬ r.Finished := by
    rintro ⟨-, counts⟩
    have total := counts k
    rw [parted, List.count_append, List.count_append] at total
    omega
  cases verdict : completeness cs with
  | incomplete => rfl
  | complete =>
    have finished := ((completeness_complete q).mp verdict).2.1
    exact absurd ((r.finished_trimEnd q).mpr finished) unfinished

/-- One closing bracket in front of two that are left open; those in a literal and in a comment do
    not count. -/
theorem unclosed_bracket_noticed_behind_closer :
    let cs := [')', '"', ')', '"', '(', '(', '-', '-', ')']
    let pieces := [.code ')', .literal [')'] true, .code '(', .code '(', .comment [')'] false]
    textOf pieces = cs ∧ codeOf pieces = [')'] ++ Bracket.paren.opener :: ['('] ∧
    [')'].count Bracket.paren.closer - [')'].count Bracket.paren.opener <
      ['(', '('].count Bracket.paren.opener - ['(', '('].count Bracket.paren.closer ∧
    completeness cs = .incomplete := by
  intro cs pieces
  have fitting : Fitting pieces :=
    ⟨by simp [Piece.Fits], ⟨unbroken_of_not_mem (by decide), rfl⟩, by simp [Piece.Fits],
      by simp [Piece.Fits], ⟨by decide, rfl⟩, trivial⟩
  have parted : codeOf pieces = [')'] ++ Bracket.paren.opener :: ['('] := rfl
  exact ⟨rfl, parted, by decide,
    unclosed_bracket_noticed ⟨pieces, rfl, fitting⟩ .paren parted (by decide)⟩

/-- Closing brackets in front of it can make up for a bracket that is never closed. -/
theorem unclosed_bracket_hidden :
    ¬ ∀ (cs : List Char) (r : Reading cs) (k : Bracket) (before behind : List Char),
      codeOf r.pieces = before ++ k.opener :: behind →
      (k.opener :: behind).count k.closer < (k.opener :: behind).count k.opener →
      completeness cs = .incomplete := by
  intro always
  have fitting : Fitting [.code ')', .code '('] := ⟨by simp [Piece.Fits], by simp [Piece.Fits], trivial⟩
  have verdict := always [')', '('] ⟨_, rfl, fitting⟩ .paren [')'] [] rfl (by decide)
  exact absurd verdict (by decide)

end NotebookKernel.Cell
