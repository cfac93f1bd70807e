import NotebookKernel.Cell.Identifier
import NotebookKernel.Proofs.Cell.Scanning
import NotebookKernel.Text.Blank

/-! # The run of identifier characters at a cursor

`Run` says without a search which part of a cell is the identifier at a cursor: the cell is cut
at the two ends of a stretch of identifier characters that the cursor touches and that cannot be
made longer.  `Span.exists_run` finds such a cut, `Run.span_eq` says that there is no other, and
`Run.touches_iff` says when it is empty.
Nothing that separates words is an identifier character, so a run is a single word.
-/

namespace NotebookKernel.Cell

/-- The place of a cursor; past the end of the cell it is the end. -/
def place (cs : List Char) (cursor : Nat) : Nat :=
  min cursor cs.length

def IdentifierAt (cs : List Char) (i : Nat) : Prop :=
  ∃ c, cs[i]? = some c ∧ isIdentifierChar c = true

/-- Whether an identifier character stands next to a cursor, on either side. -/
def Touches (cs : List Char) (cursor : Nat) : Prop :=
  ∃ i, IdentifierAt cs i ∧ (i + 1 = place cs cursor ∨ i = place cs cursor)

/-- A cell cut at the ends of the maximal run of identifier characters around a cursor. -/
structure Run (cs : List Char) (cursor : Nat) (before text after : List Char) : Prop where
  cut : cs = before ++ text ++ after
  start_le : before.length ≤ place cs cursor
  le_stop : place cs cursor ≤ before.length + text.length
  inside : ∀ c ∈ text, isIdentifierChar c = true
  left : ∀ c ∈ before.getLast?, isIdentifierChar c = false
  right : ∀ c ∈ after.head?, isIdentifierChar c = false

/-! ## The run that is found -/

theorem eq_false_of_head?_dropWhile {α : Type} {p : α → Bool} {xs : List α} {x : α}
    (first : x ∈ (xs.dropWhile p).head?) : p x = false := by
  have stopped := List.head?_dropWhile_not p xs
  rw [Option.mem_def.mp first] at stopped
  exact stopped

theorem dropWhile_append_takeWhile_reverse {α : Type} (p : α → Bool) (xs : List α) :
    (xs.reverse.dropWhile p).reverse ++ (xs.reverse.takeWhile p).reverse = xs := by
  rw [← List.reverse_append, List.takeWhile_append_dropWhile, List.reverse_reverse]

theorem takeWhile_append_of_stop {α : Type} {p : α → Bool} {xs ys : List α}
    (inside : ∀ x ∈ xs, p x = true) (stops : ∀ y ∈ ys.head?, p y = false) :
    (xs ++ ys).takeWhile p = xs := by
  rw [List.takeWhile_append_of_pos inside]
  cases ys with
  | nil => simp
  | cons y ys => simp [stops y rfl]

theorem Span.exists_run (cs : List Char) (cursor : Nat) :
    ∃ before after, Run cs cursor before (Span.at cs cursor).text after := by
  let front := cs.take (place cs cursor)
  let back := cs.drop (place cs cursor)
  have cut : cs = front ++ back := (List.take_append_drop _ _).symm
  have ends := dropWhile_append_takeWhile_reverse isIdentifierChar front
  have length : front.length = place cs cursor := List.length_take_of_le (Nat.min_le_right _ _)
  -- The search to the left starts at the cursor, so it splits the text in front of it.
  rw [← ends, List.length_append] at length
  refine ⟨(front.reverse.dropWhile isIdentifierChar).reverse, back.dropWhile isIdentifierChar, ?_⟩
  change Run cs cursor _ ((front.reverse.takeWhile isIdentifierChar).reverse ++
    back.takeWhile isIdentifierChar) _
  constructor
  · calc cs = front ++ (back.takeWhile isIdentifierChar ++ back.dropWhile isIdentifierChar) := by
          rw [List.takeWhile_append_dropWhile, ← cut]
      _ = _ := by
          conv_lhs => rw [← ends]
          simp only [List.append_assoc]
  · omega
  · rw [List.length_append]
    omega
  · intro c member
    obtain inFront | inBack := List.mem_append.mp member
    · exact List.mem_takeWhile_imp (List.mem_reverse.mp inFront)
    · exact List.mem_takeWhile_imp inBack
  · intro c last
    rw [List.getLast?_reverse] at last
    exact eq_false_of_head?_dropWhile last
  · exact fun c => eq_false_of_head?_dropWhile

/-! ## Where identifier characters stand -/

theorem not_identifierAt {cs : List Char} {i : Nat} {c : Char} (here : cs[i]? = some c)
    (other : isIdentifierChar c = false) : ¬ IdentifierAt cs i := by
  rintro ⟨d, there, identifier⟩
  rw [here] at there
  cases there
  rw [identifier] at other
  cases other

namespace Run

variable {cs before text after : List Char} {cursor : Nat}

theorem identifierAt (h : Run cs cursor before text after) {i : Nat} (start : before.length ≤ i)
    (stop : i < before.length + text.length) : IdentifierAt cs i := by
  have within : i - before.length < text.length := by omega
  refine ⟨text[i - before.length], ?_, h.inside _ (List.getElem_mem within)⟩
  rw [h.cut, List.append_assoc, List.getElem?_append_right start,
    List.getElem?_append_left within, List.getElem?_eq_getElem within]

theorem not_identifierAt_left (h : Run cs cursor before text after) (some_ : 0 < before.length) :
    ¬ IdentifierAt cs (before.length - 1) := by
  have last := List.getLast?_eq_some_getLast (List.length_pos_iff.mp some_)
  refine not_identifierAt ?_ (h.left _ last)
  rw [h.cut, List.append_assoc, List.getElem?_append_left (by omega),
    ← List.getLast?_eq_getElem?, last]

theorem not_identifierAt_right (h : Run cs cursor before text after) :
    ¬ IdentifierAt cs (before.length + text.length) := by
  have behind : cs[before.length + text.length]? = after.head? := by
    rw [h.cut, ← List.length_append, List.getElem?_append_right (Nat.le_refl _), Nat.sub_self,
      ← List.head?_eq_getElem?]
  cases first : after.head? with
  | none =>
    rintro ⟨c, here, _⟩
    rw [behind, first] at here
    cases here
  | some c => exact not_identifierAt (behind.trans first) (h.right c first)

theorem touches_iff (h : Run cs cursor before text after) : Touches cs cursor ↔ text ≠ [] := by
  have start := h.start_le
  have stop := h.le_stop
  constructor
  · rintro ⟨i, identifier, beside⟩ rfl
    -- Without a run the neighbours of the cursor are the characters that stop it.
    rw [List.length_nil] at stop
    obtain left | right := beside
    · apply h.not_identifierAt_left (by omega)
      have same : before.length - 1 = i := by omega
      rwa [same]
    · apply h.not_identifierAt_right
      have same : before.length + 0 = i := by omega
      rwa [List.length_nil, same]
  · intro some_
    have positive := List.length_pos_iff.mpr some_
    by_cases inside : place cs cursor < before.length + text.length
    · exact ⟨_, h.identifierAt start inside, .inr rfl⟩
    · exact ⟨place cs cursor - 1, h.identifierAt (by omega) (by omega), .inl (by omega)⟩

/-! ## Uniqueness -/

/-- Whatever cut of a cell is a run, it is the one that the search finds. -/
theorem span_eq (h : Run cs cursor before text after) :
    Span.at cs cursor = ⟨text, before.length, before.length + text.length⟩ := by
  obtain ⟨k, here⟩ : ∃ k, min cursor cs.length = before.length + k :=
    Nat.exists_eq_add_of_le h.start_le
  have within : k ≤ text.length := by
    have := h.le_stop
    rw [place, here] at this
    omega
  -- The cursor cuts the run in two, and each search passes over one of the halves.
  have front : cs.take (before.length + k) = before ++ text.take k := by
    rw [h.cut, List.append_assoc, List.take_length_add_append,
      List.take_append_of_le_length within]
  have back : cs.drop (before.length + k) = text.drop k ++ after := by
    rw [h.cut, List.append_assoc, List.drop_length_add_append,
      List.drop_append_of_le_length within]
  have left : (before ++ text.take k).reverse.takeWhile isIdentifierChar = (text.take k).reverse := by
    rw [List.reverse_append]
    apply takeWhile_append_of_stop
    · intro c member
      exact h.inside c (List.mem_of_mem_take (List.mem_reverse.mp member))
    · rw [List.head?_reverse]
      exact h.left
  have right : (text.drop k ++ after).takeWhile isIdentifierChar = text.drop k := by
    apply takeWhile_append_of_stop
    · intro c member
      exact h.inside c (List.mem_of_mem_drop member)
    · exact h.right
  simp only [Span.at, here, front, back, left, right, List.reverse_reverse,
    List.take_append_drop, List.length_reverse, List.length_take_of_le within, List.length_drop,
    Nat.add_sub_cancel, Nat.add_assoc, Nat.add_sub_cancel' within]

end Run

theorem Span.isEmpty_iff (cs : List Char) (cursor : Nat) :
    (Span.at cs cursor).isEmpty = true ↔ ¬ Touches cs cursor := by
  obtain ⟨before, after, run⟩ := Span.exists_run cs cursor
  rw [run.touches_iff, not_not, Span.isEmpty, List.isEmpty_iff]

/-- The run at a cursor is what the span holds. -/
theorem Run.text_eq {cs before text after : List Char} {cursor : Nat}
    (h : Run cs cursor before text after) : (Span.at cs cursor).text = text := by
  rw [h.span_eq]

/-! ## Separators -/

/-- The code points of blank characters. -/
def blankPoints : List Nat :=
  List.range' 0x09 5 ++ [0x20, 0x85, 0xA0, 0x1680] ++ List.range' 0x2000 11 ++
    [0x2028, 0x2029, 0x202F, 0x205F, 0x3000]

theorem toNat_mem_blankPoints {c : Char} (blank : Text.isBlank c = true) :
    c.toNat ∈ blankPoints := by
  simp only [Text.isBlank, Bool.or_eq_true, Bool.and_eq_true, decide_eq_true_eq,
    beq_iff_eq] at blank
  simp only [blankPoints, List.mem_append, List.mem_range'_1, List.mem_cons, List.not_mem_nil]
  omega

theorem isIdentifierChar_of_isBlank {c : Char} (blank : Text.isBlank c = true) :
    isIdentifierChar c = false := by
  have all : ∀ n ∈ blankPoints, isIdentifierChar (Char.ofNat n) = false := by decide +kernel
  have none_ := all c.toNat (toNat_mem_blankPoints blank)
  rwa [Char.ofNat_toNat] at none_

/-- What separates a word from others: blanks, double quotes and brackets. -/
def IsSeparator (c : Char) : Prop :=
  Text.isBlank c = true ∨ c = '"' ∨ ∃ k : Bracket, c = k.opener ∨ c = k.closer

theorem isIdentifierChar_of_isSeparator {c : Char} (separates : IsSeparator c) :
    isIdentifierChar c = false := by
  obtain blank | quote | ⟨k, opener | closer⟩ := separates
  · exact isIdentifierChar_of_isBlank blank
  · rw [quote]
    decide +kernel
  · rw [opener]
    cases k <;> decide +kernel
  · rw [closer]
    cases k <;> decide +kernel

theorem Run.not_isSeparator {cs before text after : List Char} {cursor : Nat}
    (h : Run cs cursor before text after) {c : Char} (member : c ∈ text) : ¬ IsSeparator c := by
  intro separates
  have identifier := h.inside c member
  rw [isIdentifierChar_of_isSeparator separates] at identifier
  cases identifier

end NotebookKernel.Cell
