import Mathlib.Data.List.TakeDrop
import NotebookKernel.Engine.Goal
import NotebookKernel.Proofs.Text.Blank

/-! # Goals that are written and read

A goal whose parts are tidy is read back from the text that `Goal.render` writes, and every goal
that is read from a text with a turnstile is tidy.  So reading settles a goal: written and read
again it stays the same.

The first turnstile ends the hypotheses, which is why they must not hold one, and the target may.
-/

namespace NotebookKernel

open NotebookKernel.Text (isBlank trim lines)

/-! ## Hypotheses -/

/-- A line that can be a hypothesis. -/
structure IsHypothesis (cs : List Char) : Prop where
  nonempty : cs ≠ []
  trimmed : trim cs = cs
  oneLine : '\n' ∉ cs
  apart : turnstile ∉ cs

instance (cs : List Char) : Decidable (IsHypothesis cs) :=
  decidable_of_iff (cs ≠ [] ∧ trim cs = cs ∧ '\n' ∉ cs ∧ turnstile ∉ cs)
    ⟨fun ⟨nonempty, trimmed, oneLine, apart⟩ => ⟨nonempty, trimmed, oneLine, apart⟩,
      fun h => ⟨h.nonempty, h.trimmed, h.oneLine, h.apart⟩⟩

theorem IsHypothesis.not_return {cs : List Char} (h : IsHypothesis cs) :
    cs.getLast? ≠ some '\r' := by
  intro last
  rw [← h.trimmed] at last
  have visible := Text.isBlank_of_mem_getLast?_trim last
  contradiction

/-- Hypotheses are the lines that they are written on. -/
theorem hypothesisLines_written {hypotheses : List (List Char)}
    (each : ∀ h ∈ hypotheses, IsHypothesis h) :
    hypothesisLines (hypotheses.flatMap (· ++ ['\n'])) = hypotheses := by
  induction hypotheses with
  | nil => rfl
  | cons h more ih =>
    have here := each h (by simp)
    have later := ih fun h member => each h (by simp [member])
    rw [hypothesisLines] at later
    rw [List.flatMap_cons, List.append_assoc, List.singleton_append, hypothesisLines,
      Text.lines_cons here.oneLine here.not_return, List.map_cons, here.trimmed,
      List.filter_cons_of_pos (by simp [here.nonempty]), later]

theorem turnstile_not_mem_written {hypotheses : List (List Char)}
    (each : ∀ h ∈ hypotheses, IsHypothesis h) :
    turnstile ∉ hypotheses.flatMap (· ++ ['\n']) := by
  rw [List.mem_flatMap]
  rintro ⟨h, member, inside⟩
  obtain inside | newline := List.mem_append.mp inside
  · exact (each h member).apart inside
  · cases List.mem_singleton.mp newline

/-- What is read in front of a turnstile are hypotheses. -/
theorem isHypothesis_of_mem {before h : List Char} (apart : turnstile ∉ before)
    (member : h ∈ hypothesisLines before) : IsHypothesis h := by
  rw [hypothesisLines, List.mem_filter, List.mem_map] at member
  obtain ⟨⟨line, read, rfl⟩, some_⟩ := member
  obtain ⟨oneLine, among⟩ := Text.mem_lines read
  constructor
  · simpa using some_
  · exact Text.trim_trim line
  · exact fun newline => oneLine (Text.mem_of_mem_trim newline)
  · exact fun inside => apart (among _ (Text.mem_of_mem_trim inside))

/-! ## Goals -/

namespace Goal

/-- The text of a goal. -/
def text (g : Goal) : String :=
  String.ofList (render (g.hypotheses.map String.toList) g.target.toList)

/-- A goal whose parts are what can stand in its text. -/
structure Tidy (g : Goal) : Prop where
  hypotheses : ∀ h ∈ g.hypotheses, IsHypothesis h.toList
  target : trim g.target.toList = g.target.toList

instance (g : Goal) : Decidable g.Tidy :=
  decidable_of_iff
    ((∀ h ∈ g.hypotheses, IsHypothesis h.toList) ∧ trim g.target.toList = g.target.toList)
    ⟨fun ⟨hypotheses, target⟩ => ⟨hypotheses, target⟩, fun h => ⟨h.hypotheses, h.target⟩⟩

theorem parse_of_split (id : Nat) {raw : String} {before target : List Char}
    (apart : turnstile ∉ before) (split : raw.toList = before ++ turnstile :: target) :
    parse id raw =
      ⟨id, (hypothesisLines before).map String.ofList, String.ofList (trim target), raw⟩ := by
  have inside : ∀ c ∈ before, (c != turnstile) = true := by
    intro c member
    simp only [bne_iff_ne]
    rintro rfl
    exact apart member
  have front : raw.toList.takeWhile (· != turnstile) = before := by
    rw [split, List.takeWhile_append_of_pos inside]
    simp
  have back : raw.toList.dropWhile (· != turnstile) = turnstile :: target := by
    rw [split, List.dropWhile_append_of_pos inside]
    simp
  simp only [parse, List.span_eq_takeWhile_dropWhile, front, back]

/-- Written with any number, a tidy goal is read back. -/
theorem Tidy.parse_text {g : Goal} (tidy : g.Tidy) (id : Nat) :
    parse id g.text = { g with id, raw := g.text } := by
  have each : ∀ h ∈ g.hypotheses.map String.toList, IsHypothesis h := by
    intro h member
    obtain ⟨written, inside, rfl⟩ := List.mem_map.mp member
    exact tidy.hypotheses written inside
  have apart := turnstile_not_mem_written each
  have split : g.text.toList = (g.hypotheses.map String.toList).flatMap (· ++ ['\n']) ++
      turnstile :: ' ' :: g.target.toList := by
    rw [text, String.toList_ofList, render]
  rw [parse_of_split id apart split, hypothesisLines_written each,
    Text.trim_cons_of_blank (by decide), tidy.target, String.ofList_toList, List.map_map]
  simp

theorem tidy_parse (id : Nat) {raw : String} (turnstile_ : turnstile ∈ raw.toList) :
    (parse id raw).Tidy := by
  obtain ⟨before, target, split, apart⟩ := List.eq_append_cons_of_mem turnstile_
  rw [parse_of_split id apart split]
  constructor
  · intro h member
    obtain ⟨line, inside, rfl⟩ := List.mem_map.mp member
    rw [String.toList_ofList]
    exact isHypothesis_of_mem apart inside
  · rw [String.toList_ofList, Text.trim_trim]

/-- Reading a goal undoes writing it, and what has been read is what can be written. -/
theorem parse_undoes_text :
    (∀ g : Goal, g.Tidy → parse g.id g.text = { g with raw := g.text }) ∧
    ∀ (id : Nat) (raw : String), turnstile ∈ raw.toList →
      let goal := parse id raw
      goal.Tidy ∧ ∀ again, parse again goal.text = { goal with id := again, raw := goal.text } := by
  constructor
  · intro g tidy
    exact tidy.parse_text g.id
  · intro id raw turnstile_
    have tidy := tidy_parse id turnstile_
    exact ⟨tidy, tidy.parse_text⟩

/-- A carriage return within a hypothesis, a newline and a turnstile within the target; and a text
    with blanks of several kinds around its parts, which are gone when it is written again. -/
theorem parse_undoes_text_blank :
    let goal : Goal := ⟨3, ["α : Type", "h\r : α"], "p ⊢\nq", "α : Type\nh\r : α\n⊢ p ⊢\nq"⟩
    let raw := "  x : Nat \r\n\n\t\u2003y\u0085⊢⊢ z\n"
    (goal.Tidy ∧ parse 3 "α : Type\nh\r : α\n⊢ p ⊢\nq" = goal) ∧
    turnstile ∈ raw.toList ∧ (parse 0 raw).text = "x : Nat\ny\n⊢ ⊢ z" ∧
    parse 1 "x : Nat\ny\n⊢ ⊢ z" = ⟨1, ["x : Nat", "y"], "⊢ z", "x : Nat\ny\n⊢ ⊢ z"⟩ := by
  intro goal raw
  have tidy : goal.Tidy := by decide +kernel
  have written : goal.text = "α : Type\nh\r : α\n⊢ p ⊢\nq" := by decide +kernel
  have read := parse_undoes_text.1 goal tidy
  rw [written] at read
  have turnstile_ : turnstile ∈ raw.toList := by decide +kernel
  have settled : (parse 0 raw).text = "x : Nat\ny\n⊢ ⊢ z" := by decide +kernel
  obtain ⟨-, again⟩ := parse_undoes_text.2 0 raw turnstile_
  have reread := again 1
  rw [settled] at reread
  have parts : (parse 0 raw).hypotheses = ["x : Nat", "y"] ∧ (parse 0 raw).target = "⊢ z" := by
    decide +kernel
  rw [parts.1, parts.2] at reread
  exact ⟨⟨tidy, read⟩, turnstile_, settled, reread⟩

end Goal

end NotebookKernel
