import Mathlib.Data.List.Induction
import Mathlib.Data.List.Nodup
import NotebookKernel.Cell.Vocabulary

/-! # Extended vocabularies

`withExtra` looks every word up in the list that it has made so far, so that a word is kept only
where it comes first and only if it is no default word.  `newcomers` says the same of a position in
the list of extra words, without looking at what has been made.
-/

namespace NotebookKernel.Cell

variable {words extra : List String} {word : String}

/-! ## One word -/

theorem addWord_of_mem (there : word ∈ words) : addWord words word = words := by
  simp [addWord, there]

theorem addWord_of_not_mem (new : word ∉ words) : addWord words word = words ++ [word] := by
  simp [addWord, new]

theorem mem_addWord {w : String} : w ∈ addWord words word ↔ w ∈ words ∨ w = word := by
  by_cases there : word ∈ words
  · rw [addWord_of_mem there, or_iff_left_of_imp]
    rintro rfl
    exact there
  · simp [addWord_of_not_mem there]

theorem nodup_addWord (distinct : words.Nodup) (word : String) : (addWord words word).Nodup := by
  by_cases there : word ∈ words
  · rwa [addWord_of_mem there]
  · rw [addWord_of_not_mem there, ← List.concat_eq_append]
    exact distinct.concat there

/-! ## Any number of words -/

theorem mem_addWords {w : String} : w ∈ extra.foldl addWord words ↔ w ∈ words ∨ w ∈ extra := by
  induction extra using List.reverseRecOn with
  | nil => simp
  | append_singleton extra word ih => simp [mem_addWord, ih, or_assoc]

theorem nodup_addWords (distinct : words.Nodup) (extra : List String) :
    (extra.foldl addWord words).Nodup := by
  induction extra using List.reverseRecOn with
  | nil => exact distinct
  | append_singleton extra word ih =>
    rw [List.foldl_append]
    exact nodup_addWord ih word

theorem addWords_of_subset {again : List String} (there : ∀ w ∈ again, w ∈ words) :
    again.foldl addWord words = words := by
  induction again with
  | nil => rfl
  | cons word again ih =>
    rw [List.foldl_cons, addWord_of_mem (there word List.mem_cons_self)]
    exact ih fun w member => there w (List.mem_cons_of_mem word member)

/-- The extra words that are not known already, each at the place where it comes first. -/
def newcomers (known extra : List String) : List String :=
  (extra.zipIdx.filter fun (word, i) => !known.contains word && !(extra.take i).contains word).map
    Prod.fst

theorem newcomers_concat (known extra : List String) (word : String) :
    newcomers known (extra ++ [word]) =
      newcomers known extra ++ if word ∈ known ∨ word ∈ extra then [] else [word] := by
  -- The places before the last one see no more of the list than they did.
  have earlier : extra.zipIdx.filter (fun (w, i) =>
        !known.contains w && !((extra ++ [word]).take i).contains w) =
      extra.zipIdx.filter fun (w, i) => !known.contains w && !(extra.take i).contains w := by
    apply List.filter_congr
    rintro ⟨w, i⟩ place
    have inside : i < extra.length := by simpa using (List.mem_zipIdx place).2.1
    simp only [List.take_append_of_le_length (Nat.le_of_lt inside)]
  have last : (extra ++ [word]).take extra.length = extra := List.take_left
  unfold newcomers
  rw [List.zipIdx_append, List.filter_append, List.map_append, earlier]
  by_cases there : word ∈ known ∨ word ∈ extra
  · obtain known_ | again := there
    · simp [known_]
    · simp [again]
  · obtain ⟨unknown, first⟩ := not_or.mp there
    simp [unknown, first]

theorem addWords_eq (words extra : List String) :
    extra.foldl addWord words = words ++ newcomers words extra := by
  induction extra using List.reverseRecOn with
  | nil => simp [newcomers]
  | append_singleton extra word ih =>
    rw [List.foldl_append, newcomers_concat, ← List.append_assoc, ← ih]
    change addWord (extra.foldl addWord words) word = _
    by_cases there : word ∈ extra.foldl addWord words
    · rw [addWord_of_mem there, if_pos (mem_addWords.mp there), List.append_nil]
    · rw [addWord_of_not_mem there, if_neg (mt mem_addWords.mpr there)]

/-! ## Vocabularies -/

namespace Vocabulary

theorem nodup_defaultWords : defaultWords.Nodup := by
  decide

/-- A vocabulary with extra words.  The default words stay in front, and every other word stands
where it comes first; words that are there already change nothing, however often they are given; and
the new words are offered behind the default ones. -/
theorem extension_keeps_order (extra : List String) :
    (withExtra extra).words = defaultWords ++ newcomers defaultWords extra ∧
    (withExtra extra).words.Nodup ∧
    (∀ w, w ∈ (withExtra extra).words ↔ w ∈ defaultWords ∨ w ∈ extra) ∧
    (∀ again : List String, (∀ w ∈ again, w ∈ (withExtra extra).words) →
      withExtra (extra ++ again) = withExtra extra) ∧
    ∀ begun, (withExtra extra).candidates begun = default.candidates begun ++
      (newcomers defaultWords extra).filter fun word => begun.isPrefixOf word.toList := by
  have words : (withExtra extra).words = defaultWords ++ newcomers defaultWords extra :=
    addWords_eq defaultWords extra
  refine ⟨words, nodup_addWords nodup_defaultWords extra, fun w => mem_addWords, ?_, ?_⟩
  · intro again there
    have same : again.foldl addWord (extra.foldl addWord defaultWords) =
        extra.foldl addWord defaultWords := addWords_of_subset there
    rw [withExtra, List.foldl_append, same]
    rfl
  · intro begun
    rw [candidates, words, List.filter_append]
    rfl

/-- A default word and a repetition are left out. -/
example : newcomers defaultWords ["Nat.sub", "by", "norm_num", "Nat.sub"] =
    ["Nat.sub", "norm_num"] := by
  decide

end Vocabulary

end NotebookKernel.Cell
