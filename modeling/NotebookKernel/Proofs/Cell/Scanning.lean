import Mathlib.Data.List.Induction
import Mathlib.Data.List.TakeWhile
import NotebookKernel.Cell.Completeness
import NotebookKernel.Proofs.Text.Blank

/-! # The scanner, part by part

`scan` goes over a text one character at a time.  Here it goes over whole parts of one: over a
literal, a comment, a character of code, and over what stands behind any text (`scan_append`).
The brackets are counted by kind, so that one statement serves for all three of them.
-/

namespace NotebookKernel.Cell

/-! ## Brackets -/

/-- The kinds of brackets. -/
inductive Bracket where
  | paren
  | brace
  | square

namespace Bracket

def opener : Bracket → Char
  | .paren => '('
  | .brace => '\x7b'
  | .square => '['

def closer : Bracket → Char
  | .paren => ')'
  | .brace => '\x7d'
  | .square => ']'

/-- By how many the opening brackets of a kind outnumber the closing ones. -/
def surplus (k : Bracket) (cs : List Char) : Int :=
  cs.count k.opener - cs.count k.closer

@[simp] theorem surplus_nil (k : Bracket) : k.surplus [] = 0 := rfl

theorem surplus_append (k : Bracket) (cs ds : List Char) :
    k.surplus (cs ++ ds) = k.surplus cs + k.surplus ds := by
  simp only [surplus, List.count_append]
  omega

theorem surplus_cons (k : Bracket) (c : Char) (cs : List Char) :
    k.surplus (c :: cs) = k.surplus [c] + k.surplus cs :=
  k.surplus_append [c] cs

theorem opener_ne_closer (k : Bracket) : k.opener ≠ k.closer := by
  cases k <;> decide

theorem surplus_singleton (k : Bracket) (c : Char) :
    k.surplus [c] = if c = k.opener then 1 else if c = k.closer then -1 else 0 := by
  unfold surplus
  by_cases opens : c = k.opener
  · rw [if_pos opens, opens, List.count_singleton_self,
      List.count_eq_zero_of_not_mem (by simpa using k.opener_ne_closer.symm)]
    rfl
  · by_cases closes : c = k.closer
    · rw [if_neg opens, if_pos closes, closes, List.count_singleton_self,
        List.count_eq_zero_of_not_mem (by simpa using k.opener_ne_closer)]
      rfl
    · rw [if_neg opens, if_neg closes, List.count_eq_zero_of_not_mem (by simpa using Ne.symm opens),
        List.count_eq_zero_of_not_mem (by simpa using Ne.symm closes)]
      rfl

end Bracket

/-- How many brackets of a kind are open. -/
def Depths.of (d : Depths) : Bracket → Int
  | .paren => d.parens
  | .brace => d.braces
  | .square => d.brackets

@[simp] theorem Depths.zero_of (k : Bracket) : Depths.zero.of k = 0 := by
  cases k <;> rfl

theorem Depths.next_of (d : Depths) (c : Char) (k : Bracket) :
    (d.next c).of k = d.of k + k.surplus [c] := by
  rw [k.surplus_singleton]
  cases k <;> grind [next, of, Bracket.opener, Bracket.closer]

theorem Depths.isOpen_iff {d : Depths} : d.isOpen = true ↔ ∃ k, 0 < d.of k := by
  simp only [isOpen, Bool.or_eq_true, decide_eq_true_eq]
  constructor
  · rintro ((opened | opened) | opened)
    · exact ⟨.paren, opened⟩
    · exact ⟨.brace, opened⟩
    · exact ⟨.square, opened⟩
  · rintro ⟨k, opened⟩
    cases k with
    | paren => exact .inl (.inl opened)
    | brace => exact .inl (.inr opened)
    | square => exact .inr opened

theorem Depths.isOpen_eq_false_iff {d : Depths} : d.isOpen = false ↔ ∀ k, d.of k ≤ 0 := by
  rw [← Bool.not_eq_true, isOpen_iff, not_exists]
  simp

/-! ## Code and comments -/

/-- Code goes on at a character that begins no literal and no comment. -/
theorem scan_plain (d : Depths) {c : Char} {rest : List Char} (noQuote : c ≠ '"')
    (noComment : c = '-' → rest.head? ≠ some '-') :
    scan .code d (c :: rest) = scan .code (d.next c) rest := by
  by_cases dash : c = '-'
  · subst dash
    have apart := noComment rfl
    cases rest with
    | nil => rfl
    | cons c' rest =>
      have single : c' ≠ '-' := by simpa using apart
      simp only [scan, single, if_false, if_true, noQuote]
      rfl
  · rw [scan.eq_def]
    simp only [noQuote, dash, if_false]

theorem scan_quote (d : Depths) (rest : List Char) :
    scan .code d ('"' :: rest) = scan (.literal false) d rest := by
  rw [scan.eq_def]
  simp only [if_true]

theorem scan_dashes (d : Depths) (rest : List Char) :
    scan .code d ('-' :: '-' :: rest) = scan .comment d rest := rfl

theorem scan_comment (d : Depths) {body : List Char} (rest : List Char) (oneLine : '\n' ∉ body) :
    scan .comment d (body ++ rest) = scan .comment d rest := by
  induction body with
  | nil => rfl
  | cons c body ih =>
    have goesOn : c ≠ '\n' := fun newline => oneLine (newline ▸ List.mem_cons_self)
    rw [List.cons_append, scan, if_neg goesOn]
    exact ih fun later => oneLine (List.mem_cons_of_mem c later)

/-! ## Literals -/

/-- Whether a character behind these characters of a literal is escaped: the backslashes right
    before it are odd in number. -/
def escapes (before : List Char) : Bool :=
  (before.reverse.takeWhile (· == '\\')).length % 2 == 1

@[simp] theorem escapes_nil : escapes [] = false := rfl

theorem escapes_concat (cs : List Char) (c : Char) :
    escapes (cs ++ [c]) = (c == '\\' && !escapes cs) := by
  simp only [escapes, List.reverse_append, List.reverse_singleton, List.singleton_append,
    List.takeWhile_cons]
  cases c == '\\' with
  | false => rfl
  | true =>
    rw [if_pos rfl, List.length_cons]
    obtain even | odd := Nat.mod_two_eq_zero_or_one (cs.reverse.takeWhile (· == '\\')).length
    · simp [Nat.add_mod, even]
    · simp [Nat.add_mod, odd]

/-- No character of a literal's body ends it: every quote among them is escaped. -/
def Unbroken (body : List Char) : Prop :=
  ∀ before behind, body = before ++ '"' :: behind → escapes before = true

theorem unbroken_of_not_mem {body : List Char} (noQuote : '"' ∉ body) : Unbroken body := by
  rintro before behind rfl
  exact absurd List.mem_append_cons_self noQuote

theorem Unbroken.left {cs ds : List Char} (unbroken : Unbroken (cs ++ ds)) : Unbroken cs := by
  intro before behind parted
  exact unbroken before (behind ++ ds) (by simp [parted])

theorem Unbroken.concat {body : List Char} (unbroken : Unbroken body) {c : Char}
    (goesOn : c = '"' → escapes body = true) : Unbroken (body ++ [c]) := by
  intro before behind parted
  obtain rfl | ⟨behind, last, rfl⟩ := behind.eq_nil_or_concat
  · obtain ⟨rfl, quote⟩ := List.append_inj' parted rfl
    exact goesOn (List.singleton_inj.mp quote)
  · rw [List.concat_eq_append, ← List.cons_append, ← List.append_assoc] at parted
    exact unbroken before behind (List.append_inj' parted rfl).1

/-- The scanner knows at any place of a literal whether the next character is escaped. -/
theorem scan_literal (d : Depths) {body : List Char} (rest : List Char) (unbroken : Unbroken body) :
    scan (.literal false) d (body ++ rest) = scan (.literal (escapes body)) d rest := by
  induction body using List.reverseRecOn generalizing rest with
  | nil => rfl
  | append_singleton body c ih =>
    rw [List.append_assoc, ih _ unbroken.left, escapes_concat, List.singleton_append]
    cases escaped : escapes body with
    | true => simp [scan]
    | false =>
      have noQuote : c ≠ '"' := by
        intro quote
        have := unbroken body [] (by rw [quote])
        rw [escaped] at this
        cases this
      by_cases backslash : c = '\\'
      · simp [scan, backslash]
      · simp [scan, backslash, noQuote, beq_false_of_ne backslash]

theorem scan_closing (d : Depths) {body : List Char} (rest : List Char) (unbroken : Unbroken body)
    (closes : escapes body = false) :
    scan (.literal false) d (body ++ '"' :: rest) = scan .code d rest := by
  rw [scan_literal d _ unbroken, closes]
  rfl

/-! ## What stands behind a text -/

/-- A text can be scanned in two parts, unless two dashes are torn apart. -/
theorem scan_append (mode : Mode) (d : Depths) (cs : List Char) {ds : List Char}
    (apart : ds.head? ≠ some '-') :
    scan mode d (cs ++ ds) = scan (scan mode d cs).1 (scan mode d cs).2 ds := by
  fun_induction scan mode d cs with
  | case1 => rfl
  | case9 d noQuote => exact scan_plain d noQuote fun _ => apart
  | case12 d c rest noQuote noDash ih =>
    rw [List.cons_append, scan_plain d noQuote fun dash => absurd dash noDash]
    exact ih
  | case8 d rest ih =>
    rw [List.cons_append, scan_quote]
    exact ih
  -- All other steps look at characters of the first part only.
  | case2 | case3 | case4 | case5 | case6 | case7 | case10 | case11 => simp_all [scan]

theorem ne_of_blank {c c' : Char} (blank : Text.isBlank c = true)
    (visible : Text.isBlank c' = false) : c ≠ c' := by
  rintro rfl
  rw [visible] at blank
  cases blank

theorem next_of_blank (d : Depths) {c : Char} (blank : Text.isBlank c = true) : d.next c = d := by
  have notOne {bracket : Char} : Text.isBlank bracket = false → c ≠ bracket := ne_of_blank blank
  rw [Depths.next, if_neg (notOne rfl), if_neg (notOne rfl), if_neg (notOne rfl),
    if_neg (notOne rfl), if_neg (notOne rfl), if_neg (notOne rfl)]

/-- Blanks leave a literal open, and open no bracket. -/
theorem scan_blanks (mode : Mode) (d : Depths) {blanks : List Char}
    (blank : ∀ c ∈ blanks, Text.isBlank c = true) :
    (scan mode d blanks).1.isLiteral = mode.isLiteral ∧ (scan mode d blanks).2 = d := by
  induction blanks generalizing mode with
  | nil => exact ⟨rfl, rfl⟩
  | cons c blanks ih =>
    have later : ∀ c ∈ blanks, Text.isBlank c = true := fun c member => blank c (by simp [member])
    have here := blank c (by simp)
    have noQuote : c ≠ '"' := ne_of_blank here rfl
    have noBackslash : c ≠ '\\' := ne_of_blank here rfl
    have noDash : c ≠ '-' := ne_of_blank here rfl
    cases mode with
    | literal escaped =>
      cases escaped with
      | true => exact ih (.literal false) later
      | false =>
        rw [scan, if_neg noBackslash, if_neg noQuote]
        exact ih (.literal false) later
    | comment =>
      rw [scan]
      split
      · exact ih .code later
      · exact ih .comment later
    | code =>
      rw [scan_plain d noQuote fun dash => absurd dash noDash, next_of_blank d here]
      exact ih .code later

/-- Blanks at the end of a text can be left out. -/
theorem scan_trimEnd (d : Depths) (cs : List Char) :
    (scan .code d cs).1.isLiteral = (scan .code d (Text.trimEnd cs)).1.isLiteral ∧
      (scan .code d cs).2 = (scan .code d (Text.trimEnd cs)).2 := by
  obtain ⟨blanks, blank, whole⟩ := Text.trimEnd_append_blanks cs
  have apart : blanks.head? ≠ some '-' := by
    intro dash
    have := blank '-' (List.mem_of_head? dash)
    cases this
  have parted := scan_append .code d (Text.trimEnd cs) apart
  rw [whole] at parted
  rw [parted]
  exact scan_blanks _ _ blank

end NotebookKernel.Cell
