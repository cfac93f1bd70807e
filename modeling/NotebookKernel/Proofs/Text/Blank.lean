import Mathlib.Data.List.DropRight
import NotebookKernel.Text.Blank

/-! # Trimmed texts and lines

Trimming removes blanks from the ends only, and nothing more when it is done again.  Lines that are
written with a newline behind each of them are read back, except for a carriage return at their
end; what is read holds no newline and nothing that is not in the text.
-/

namespace NotebookKernel.Text

/-! ## The end of a text -/

theorem trimEnd_eq (cs : List Char) : trimEnd cs = cs.rdropWhile isBlank := rfl

theorem trimEnd_append_blanks (cs : List Char) :
    ∃ blanks, (∀ c ∈ blanks, isBlank c = true) ∧ trimEnd cs ++ blanks = cs := by
  refine ⟨cs.rtakeWhile isBlank, fun c => List.mem_rtakeWhile_imp, ?_⟩
  rw [trimEnd_eq, List.rdropWhile_append_rtakeWhile]

theorem trimEnd_append (cs : List Char) {ds : List Char} (solid : ∃ c ∈ ds, isBlank c = false) :
    trimEnd (cs ++ ds) = cs ++ trimEnd ds := by
  have visible : ¬ (ds.reverse.dropWhile isBlank).isEmpty = true := by
    simpa [List.dropWhile_eq_nil_iff] using solid
  rw [trimEnd, List.reverse_append, List.dropWhile_append, if_neg visible, List.reverse_append,
    List.reverse_reverse, trimEnd]

theorem trimEnd_eq_nil_iff {cs : List Char} : trimEnd cs = [] ↔ ∀ c ∈ cs, isBlank c = true := by
  rw [trimEnd_eq, List.rdropWhile_eq_nil_iff]

theorem trimEnd_ne_nil_iff {cs : List Char} : trimEnd cs ≠ [] ↔ ∃ c ∈ cs, isBlank c = false := by
  simp [trimEnd_eq_nil_iff]

theorem trimEnd_cons {c : Char} (visible : isBlank c = false) (cs : List Char) :
    trimEnd (c :: cs) = c :: trimEnd cs := by
  by_cases solid : ∃ c ∈ cs, isBlank c = false
  · exact trimEnd_append [c] solid
  · have blank : cs.reverse.dropWhile isBlank = [] := by
      simpa [List.dropWhile_eq_nil_iff] using solid
    simp [trimEnd, List.dropWhile_append, blank, visible]

/-! ## Both ends -/

theorem trim_cons_of_blank {c : Char} (blank : isBlank c = true) (cs : List Char) :
    trim (c :: cs) = trim cs := by
  rw [trim, List.dropWhile_cons_of_pos blank, trim]

theorem trim_isPrefix_dropWhile (cs : List Char) : trim cs <+: cs.dropWhile isBlank :=
  List.rdropWhile_prefix isBlank (cs.dropWhile isBlank)

theorem mem_of_mem_trim {cs : List Char} {c : Char} (member : c ∈ trim cs) : c ∈ cs :=
  (List.dropWhile_suffix isBlank).subset ((trim_isPrefix_dropWhile cs).subset member)

theorem isBlank_of_mem_getLast?_trim {cs : List Char} {c : Char} (last : c ∈ (trim cs).getLast?) :
    isBlank c = false := by
  obtain ⟨nonempty, rfl⟩ := List.mem_getLast?_eq_getLast last
  have visible := List.rdropWhile_last_not isBlank (cs.dropWhile isBlank) nonempty
  exact Bool.eq_false_iff.mpr visible

theorem trim_eq_nil_iff {cs : List Char} : trim cs = [] ↔ ∀ c ∈ cs, isBlank c = true := by
  rw [trim, trimEnd_eq_nil_iff]
  constructor
  · intro behind c member
    rw [← List.takeWhile_append_dropWhile (p := isBlank) (l := cs)] at member
    obtain front | back := List.mem_append.mp member
    · exact List.mem_takeWhile_imp front
    · exact behind c back
  · intro blank c member
    exact blank c ((List.dropWhile_suffix isBlank).subset member)

/-- What is left begins where the blanks in front end, so that there are none in front of it. -/
theorem dropWhile_trim (cs : List Char) : (trim cs).dropWhile isBlank = trim cs := by
  obtain ⟨rest, whole⟩ := trim_isPrefix_dropWhile cs
  have stopped := List.head?_dropWhile_not isBlank cs
  rw [← whole] at stopped
  generalize trim cs = left at stopped
  cases left with
  | nil => rfl
  | cons c left => exact List.dropWhile_cons_of_neg (Bool.eq_false_iff.mp stopped)

theorem trim_trim (cs : List Char) : trim (trim cs) = trim cs := by
  have again : trimEnd (trim cs) = trim cs := List.rdropWhile_idempotent isBlank _
  rw [trim, dropWhile_trim, again]

/-! ## Lines -/

theorem linesFrom_append {xs : List Char} (oneLine : '\n' ∉ xs) (current rest : List Char) :
    linesFrom current (xs ++ rest) = linesFrom (xs.reverse ++ current) rest := by
  induction xs generalizing current with
  | nil => rfl
  | cons x xs ih =>
    simp only [List.mem_cons, not_or] at oneLine
    simp [linesFrom, Ne.symm oneLine.1, ih oneLine.2]

theorem lines_cons {line : List Char} (oneLine : '\n' ∉ line) (noReturn : line.getLast? ≠ some '\r')
    (rest : List Char) : lines (line ++ '\n' :: rest) = line :: lines rest := by
  have kept : dropReturn line.reverse = line.reverse := by
    unfold dropReturn
    split
    case h_1 rest reversed =>
      rw [← List.head?_reverse, reversed] at noReturn
      contradiction
    case h_2 => rfl
  rw [lines, linesFrom_append oneLine, List.append_nil, linesFrom, if_pos rfl, kept,
    List.reverse_reverse, lines]

theorem dropReturn_suffix (cs : List Char) : dropReturn cs <:+ cs := by
  unfold dropReturn
  split
  · exact List.suffix_cons ..
  · exact List.suffix_rfl

/-- A line consists of characters of the text; the line that is being read has no newline yet. -/
theorem mem_linesFrom {current cs line : List Char} (oneLine : '\n' ∉ current)
    (member : line ∈ linesFrom current cs) :
    '\n' ∉ line ∧ ∀ c ∈ line, c ∈ current ∨ c ∈ cs := by
  induction cs generalizing current with
  | nil =>
    rw [linesFrom] at member
    split at member
    · cases member
    · obtain rfl := List.mem_singleton.mp member
      simpa using oneLine
  | cons c rest ih =>
    rw [linesFrom] at member
    split at member
    case isTrue newline =>
      obtain rfl | later := List.mem_cons.mp member
      · have kept := (dropReturn_suffix current).subset
        constructor
        · exact fun broken => oneLine (kept (List.mem_reverse.mp broken))
        · exact fun x inside => .inl (kept (List.mem_reverse.mp inside))
      · obtain ⟨oneLine, among⟩ := ih List.not_mem_nil later
        refine ⟨oneLine, fun x inside => .inr ?_⟩
        have := (among x inside).resolve_left List.not_mem_nil
        simp [this]
    case isFalse goesOn =>
      have longer : '\n' ∉ c :: current := by simp [oneLine, Ne.symm goesOn]
      obtain ⟨oneLine, among⟩ := ih longer member
      refine ⟨oneLine, fun x inside => ?_⟩
      have := among x inside
      simp only [List.mem_cons] at this ⊢
      tauto

theorem mem_lines {cs line : List Char} (member : line ∈ lines cs) :
    '\n' ∉ line ∧ ∀ c ∈ line, c ∈ cs := by
  obtain ⟨oneLine, among⟩ := mem_linesFrom List.not_mem_nil member
  exact ⟨oneLine, fun c inside => (among c inside).resolve_left List.not_mem_nil⟩

end NotebookKernel.Text
