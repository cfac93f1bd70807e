import NotebookKernel.Proofs.Cell.Completeness

/-! # What comments and literals contain

The words of a comment and of a string literal have no influence on the verdict on a cell.  The
scanner is in the same state behind them whatever they are; the one thing that looks at them is
the search for `by`, which does not reach over their ends.

The delicate place is the text in front of a comment: a dash at its end takes the first dash of the
comment away, so the text cannot be scanned on its own there (`scan_append` does not apply).
-/

namespace NotebookKernel.Cell

open NotebookKernel.Text (isBlank trimEnd trimEnd_append trimEnd_cons trimEnd_ne_nil_iff)

/-! ## The scanner behind a comment and behind a literal -/

theorem scan_newline (mode : Mode) (d : Depths) {cs : List Char}
    (outside : (scan mode d cs).1.isLiteral = false) (rest : List Char) :
    scan mode d (cs ++ '\n' :: rest) = scan .code (scan mode d cs).2 rest := by
  have apart : ('\n' :: rest).head? ≠ some '-' := by simp
  rw [scan_append mode d cs apart]
  generalize scan mode d cs = state at outside
  obtain ⟨mode, d⟩ := state
  cases mode with
  | code =>
    rw [scan_plain d (by decide) fun dash => absurd dash (by decide), next_of_blank d rfl]
  | literal escaped => cases outside
  | comment => rfl

/-- A comment takes the scanner where the newline at its end takes it. -/
theorem scan_comment_line (mode : Mode) (d : Depths) {cs body : List Char}
    (outside : (scan mode d cs).1.isLiteral = false) (oneLine : '\n' ∉ body) (rest : List Char) :
    scan mode d (cs ++ '-' :: '-' :: body ++ '\n' :: rest) = scan .code (scan mode d cs).2 rest := by
  have ended (d : Depths) (words : List Char) (oneLine : '\n' ∉ words) :
      scan .comment d (words ++ '\n' :: rest) = scan .code d rest := scan_comment d _ oneLine
  fun_induction scan mode d cs with
  | case1 mode d =>
    cases mode with
    | code => exact ended d body oneLine
    | literal escaped => cases outside
    | comment => exact ended d ('-' :: '-' :: body) (by simpa using oneLine)
  -- The dash in front of the comment and the first one of the comment begin it together.
  | case9 d noQuote => exact ended d ('-' :: body) (by simpa using oneLine)
  | case12 d c rest' noQuote noDash ih =>
    rw [List.cons_append, List.cons_append, scan_plain d noQuote fun dash => absurd dash noDash]
    exact ih outside
  | case8 d rest' ih =>
    rw [List.cons_append, List.cons_append, scan_quote]
    exact ih outside
  | case2 | case3 | case4 | case5 | case6 | case7 | case10 | case11 => simp_all [scan]

/-- Words without quotes and backslashes leave a literal as it is. -/
theorem scan_words (d : Depths) {words : List Char} (noQuote : '"' ∉ words)
    (noBackslash : '\\' ∉ words) (rest : List Char) :
    scan (.literal false) d (words ++ rest) = scan (.literal false) d rest := by
  have plain : escapes words = false := by
    obtain rfl | ⟨front, last, rfl⟩ := words.eq_nil_or_concat
    · rfl
    · have other : last ≠ '\\' := by
        rintro rfl
        exact noBackslash (by simp)
      rw [List.concat_eq_append, escapes_concat, beq_false_of_ne other, Bool.false_and]
  rw [scan_literal d rest (unbroken_of_not_mem noQuote), plain]

/-! ## The search for `by` -/

/-- The word is found in one of two parts of a text, unless it lies across them. -/
theorem mentionsBy_append (cs : List Char) {ds : List Char} (apart : ds.head? ≠ some 'y') :
    mentionsBy (cs ++ ds) = (mentionsBy cs || mentionsBy ds) := by
  induction cs with
  | nil => rfl
  | cons c rest ih =>
    have next : ((rest ++ ds).head? == some 'y') = (rest.head? == some 'y') := by
      cases rest with
      | nil => simpa using apart
      | cons => rfl
    rw [List.cons_append, mentionsBy, mentionsBy, ih, next, Bool.or_assoc]

theorem mentionsBy_cons {c : Char} (other : c ≠ 'b') (rest : List Char) :
    mentionsBy (c :: rest) = mentionsBy rest := by
  simp [mentionsBy, other]

/-- Words without `by` do not matter in front of a character that cannot belong to it. -/
theorem mentionsBy_words {words : List Char} (silent : ¬ ['b', 'y'] <:+: words) {c : Char}
    (first : c ≠ 'y') (rest : List Char) : mentionsBy (words ++ c :: rest) = mentionsBy (c :: rest) := by
  have none_ : mentionsBy words = false := by rwa [← mentionsBy_iff, Bool.not_eq_true] at silent
  rw [mentionsBy_append words (by simpa using first), none_, Bool.false_or]

/-! ## The end of a cell -/

theorem endsStatement_append (cs : List Char) {ds : List Char} (nonempty : ds ≠ []) :
    endsStatement (cs ++ ds) = endsStatement ds := by
  have last : (cs ++ ds).getLast? = ds.getLast? := by
    rw [List.getLast?_append, List.getLast?_eq_some_getLast nonempty, Option.some_or]
  rw [endsStatement, last, endsStatement]

/-- A part of a cell can be replaced by another one if neither the scanner nor the search for `by`
    can tell them apart, and something visible comes behind it. -/
theorem completeness_replaced {cs ds rest : List Char} (solid : ∃ c ∈ rest, isBlank c = false)
    (scanned : scan .code .zero (cs ++ trimEnd rest) = scan .code .zero (ds ++ trimEnd rest))
    (mentioned : mentionsBy (cs ++ trimEnd rest) = mentionsBy (ds ++ trimEnd rest)) :
    completeness (cs ++ rest) = completeness (ds ++ rest) := by
  have nonempty := trimEnd_ne_nil_iff.mpr solid
  have inhabited (front : List Char) : (front ++ trimEnd rest).isEmpty = false := by
    simp [nonempty]
  have ending (front : List Char) := endsStatement_append front nonempty
  simp only [completeness, trimEnd_append _ solid, inhabited, ending, scanned, mentioned]

/-! ## The verdict -/

/-- What a comment and what a string literal contains makes no difference to the verdict, as long as
    they do not mention `by`: a comment can be left out behind any text that does not leave a
    literal open, and a literal in the code can be emptied. -/
theorem verdict_ignores_contents :
    (∀ front words rest : List Char,
      (scan .code .zero front).1.isLiteral = false → '\n' ∉ words → ¬ ['b', 'y'] <:+: words →
      (∃ c ∈ rest, isBlank c = false) →
      completeness (front ++ '-' :: '-' :: words ++ '\n' :: rest) =
        completeness (front ++ '\n' :: rest)) ∧
    (∀ front words rest : List Char,
      (scan .code .zero front).1 = .code → '"' ∉ words → '\\' ∉ words →
      ¬ ['b', 'y'] <:+: words →
      completeness (front ++ '"' :: words ++ '"' :: rest) =
        completeness (front ++ '"' :: '"' :: rest)) := by
  constructor
  · intro front words rest outside oneLine silent solid
    have ended (front : List Char) : front ++ '\n' :: rest = front ++ ['\n'] ++ rest := by simp
    rw [ended, ended]
    refine completeness_replaced solid ?_ ?_
    · rw [← List.append_cons, ← List.append_cons, scan_comment_line _ _ outside oneLine,
        scan_newline _ _ outside]
    · rw [← List.append_cons, ← List.append_cons, List.append_assoc,
        mentionsBy_append front (by simp), mentionsBy_append front (by simp), List.cons_append,
        List.cons_append, mentionsBy_cons (by decide), mentionsBy_cons (by decide),
        mentionsBy_words silent (by decide)]
  · intro front words rest code noQuote noBackslash silent
    have solid : ∃ c ∈ '"' :: rest, isBlank c = false := ⟨'"', by simp, rfl⟩
    have opened (front : List Char) : front ++ '"' :: '"' :: rest = front ++ ['"'] ++ '"' :: rest := by
      simp
    -- A dash in front of the quote does not begin a comment with it.
    have apart (rest : List Char) : ('"' :: rest).head? ≠ some '-' := by simp
    rw [opened]
    refine completeness_replaced solid ?_ ?_
    · rw [List.append_assoc, List.append_assoc, List.cons_append, List.singleton_append,
        scan_append _ _ front (apart _), scan_append _ _ front (apart _), code, scan_quote, scan_quote,
        scan_words _ noQuote noBackslash]
    · rw [trimEnd_cons rfl, List.append_assoc, List.append_assoc, List.cons_append,
        List.singleton_append, mentionsBy_append front (by simp), mentionsBy_append front (by simp),
        mentionsBy_cons (by decide), mentionsBy_cons (by decide), mentionsBy_words silent (by decide)]

/-- A comment behind a lone dash, with a quote and a bracket in it; and a literal that contains what
    looks like a comment. -/
theorem verdict_ignores_contents_dashes :
    ((scan .code .zero ['x', ' ', '-']).1.isLiteral = false ∧
      '\n' ∉ ['-', '-', '"', '('] ∧ ¬ ['b', 'y'] <:+: ['-', '-', '"', '('] ∧
      completeness "x -----\"(\nby)".toList = completeness "x -\nby)".toList) ∧
    ((scan .code .zero ['f', ' ']).1 = .code ∧ ¬ ['b', 'y'] <:+: ['-', '-', ')'] ∧
      completeness "f \"--)\" (".toList = completeness "f \"\" (".toList) := by
  have noWord {words : List Char} (silent : mentionsBy words = false) : ¬ ['b', 'y'] <:+: words := by
    rwa [← mentionsBy_iff, Bool.not_eq_true]
  have comment := verdict_ignores_contents.1 ['x', ' ', '-'] ['-', '-', '"', '('] ['b', 'y', ')'] rfl
    (by decide) (noWord rfl) ⟨'b', by decide, rfl⟩
  have literal := verdict_ignores_contents.2 ['f', ' '] ['-', '-', ')'] [' ', '('] rfl (by decide)
    (by decide) (noWord rfl)
  exact ⟨⟨rfl, by decide, noWord rfl, comment⟩, rfl, noWord rfl, literal⟩

end NotebookKernel.Cell
