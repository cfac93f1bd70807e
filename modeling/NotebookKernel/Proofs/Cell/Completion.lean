import NotebookKernel.Cell.Vocabulary
import NotebookKernel.Proofs.Cell.Span

/-! # Accepting a completion

A word that completion offers takes the place of the identifier at the cursor.  Since that was a
maximal run, the word neither grows into its neighbours nor falls apart, if it is an identifier
itself: completing again, anywhere in the word, finds the same word in the same place.
-/

namespace NotebookKernel.Cell

/-- A cell with a word in place of the part that is completed. -/
def Completion.accept (completion : Completion) (cs : List Char) (word : String) : List Char :=
  cs.take completion.start ++ word.toList ++ cs.drop completion.stop

/-! ## The words that are offered -/

namespace Vocabulary

variable {v : Vocabulary} {begun : List Char} {word : String}

theorem mem_candidates_iff : word ∈ v.candidates begun ↔ word ∈ v.words ∧ begun <+: word.toList := by
  simp [candidates]

theorem candidates_sublist (v : Vocabulary) (begun : List Char) : (v.candidates begun).Sublist v.words :=
  List.filter_sublist

theorem count_candidates (v : Vocabulary) (begun : List Char) (word : String) :
    (v.candidates begun).count word = if begun <+: word.toList then v.words.count word else 0 := by
  split
  case isTrue begins =>
    apply List.count_filter
    simpa using begins
  case isFalse other =>
    apply List.count_eq_zero_of_not_mem
    intro member
    exact other (mem_candidates_iff.mp member).2

end Vocabulary

/-! ## The cell behind it -/

namespace Run

variable {cs before text after : List Char} {cursor : Nat}

theorem complete_eq (h : Run cs cursor before text after) (v : Vocabulary) :
    v.complete cs cursor = ⟨v.candidates text, before.length, before.length + text.length⟩ := by
  rw [Vocabulary.complete, h.span_eq]

theorem replaced (h : Run cs cursor before text after) (word : List Char) :
    cs.take before.length ++ word ++ cs.drop (before.length + text.length) = before ++ word ++ after := by
  have front : cs.take before.length = before := by
    rw [h.cut, List.append_assoc, List.take_left]
  have back : cs.drop (before.length + text.length) = after := by
    rw [h.cut, ← List.length_append, List.drop_left]
  rw [front, back]

/-- The ends of a run separate any word from its neighbours. -/
theorem of_word (h : Run cs cursor before text after) {word : List Char}
    (identifier : ∀ c ∈ word, isIdentifierChar c = true) {cursor' : Nat}
    (start : before.length ≤ cursor') (stop : cursor' ≤ before.length + word.length) :
    Run (before ++ word ++ after) cursor' before word after := by
  have here : place (before ++ word ++ after) cursor' = cursor' := by
    simp only [place, List.length_append]
    omega
  constructor
  · rfl
  · rwa [here]
  · rwa [here]
  · exact identifier
  · exact h.left
  · exact h.right

end Run

/-- What is offered are the words that begin with the identifier at the cursor, in their order and
    as often as they occur.  One that is accepted is found again wherever the cursor touches it. -/
theorem accepted_completion_stays (v : Vocabulary) (cs : List Char) (cursor : Nat) :
    let offered := v.complete cs cursor
    let name := (cs.take offered.stop).drop offered.start
    Encloses cs cursor offered.start offered.stop ∧
    offered.words.Sublist v.words ∧
    (∀ word, offered.words.count word = if name <+: word.toList then v.words.count word else 0) ∧
    ∀ word ∈ offered.words, (∀ c ∈ word.toList, isIdentifierChar c = true) →
      let edited := offered.accept cs word
      let stop := offered.start + word.length
      ∀ cursor', offered.start ≤ cursor' → cursor' ≤ stop →
        Span.at edited cursor' = ⟨word.toList, offered.start, stop⟩ ∧
        let again := v.complete edited cursor'
        word ∈ again.words ∧ again.start = offered.start ∧ again.stop = stop := by
  obtain ⟨before, text, after, run⟩ := exists_cut cs cursor
  intro offered name
  have found : offered = ⟨v.candidates text, before.length, before.length + text.length⟩ :=
    run.complete_eq v
  have named : name = text := by
    simp only [name, found]
    exact run.slice
  rw [found, named]
  refine ⟨run.encloses, v.candidates_sublist text, v.count_candidates text, ?_⟩
  intro word member identifier edited stop cursor' start_le le_stop
  have cut : edited = before ++ word.toList ++ after := run.replaced word.toList
  have length : word.toList.length = word.length := String.length_toList
  -- The word stands between the same borders as the text that it has replaced.
  have run' : Run edited cursor' before word.toList after := by
    rw [cut]
    apply run.of_word identifier start_le
    rwa [length]
  have again := run'.complete_eq v
  rw [length] at again
  have span := run'.span_eq
  rw [length] at span
  rw [again]
  have inWords := (Vocabulary.mem_candidates_iff.mp member).1
  exact ⟨span, Vocabulary.mem_candidates_iff.mpr ⟨inWords, List.prefix_rfl⟩, rfl, rfl⟩

/-- A qualified name takes the place of its beginning, behind letters that take several bytes. -/
theorem accepted_completion_stays_qualified :
    let cs := "∀ α, (Na)".toList
    let offered := Vocabulary.default.complete cs 7
    let edited := "∀ α, (Nat.add)".toList
    "Nat.add" ∈ offered.words ∧ (∀ c ∈ "Nat.add".toList, isIdentifierChar c = true) ∧
    offered.accept cs "Nat.add" = edited ∧ offered.words.count "Nat.add" = 1 ∧
    Span.at edited 9 = ⟨"Nat.add".toList, 6, 13⟩ ∧
    "Nat.add" ∈ (Vocabulary.default.complete edited 9).words := by
  intro cs offered edited
  have member : "Nat.add" ∈ offered.words := by decide +kernel
  have identifier : ∀ c ∈ "Nat.add".toList, isIdentifierChar c = true :=
    List.all_eq_true.mp (by decide +kernel)
  have start : offered.start = 6 := by decide +kernel
  have accepted : offered.accept cs "Nat.add" = edited := by decide +kernel
  obtain ⟨-, -, counts, stays⟩ := accepted_completion_stays Vocabulary.default cs 7
  have within : 6 ≤ 9 ∧ 9 ≤ 6 + "Nat.add".length := by decide
  rw [← start] at within
  obtain ⟨span, inWords, -⟩ := stays "Nat.add" member identifier 9 within.1 within.2
  have count : offered.words.count "Nat.add" = 1 := (counts "Nat.add").trans (by decide +kernel)
  rw [accepted] at span inWords
  rw [start] at span
  exact ⟨member, identifier, accepted, count, span, inWords⟩

end NotebookKernel.Cell
