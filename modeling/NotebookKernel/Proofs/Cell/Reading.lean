import NotebookKernel.Proofs.Cell.Scanning

/-! # How a cell is read

From left to right a text is a sequence of string literals, line comments and characters of
code.  `Piece.Fits` says what each of them looks like, given the text behind it, without a scanner;
`exists_reading` and `reading_unique` say that every text can be read in exactly one way.
`scan_pieces` relates the scanner to this reading.
-/

namespace NotebookKernel.Cell

/-! ## Pieces -/

/-- A part of a text. -/
inductive Piece where
  /-- A string literal; without its closing quote it runs to the end of the text. -/
  | literal (body : List Char) (closed : Bool)
  /-- A line comment; without a newline it runs to the end of the text. -/
  | comment (body : List Char) (ended : Bool)
  | code (c : Char)
  deriving Repr, DecidableEq

namespace Piece

/-- The characters of a piece. -/
def text : Piece → List Char
  | .literal body true => '"' :: body ++ ['"']
  | .literal body false => '"' :: body
  | .comment body true => '-' :: '-' :: body ++ ['\n']
  | .comment body false => '-' :: '-' :: body
  | .code c => [c]

/-- Whether a piece is met in front of the given text: a literal ends at the first quote that is
    not escaped, a comment at the first newline, and code begins neither of them. -/
def Fits (behind : List Char) : Piece → Prop
  | .literal body true => Unbroken body ∧ escapes body = false
  | .literal body false => Unbroken body ∧ behind = []
  | .comment body true => '\n' ∉ body
  | .comment body false => '\n' ∉ body ∧ behind = []
  | .code c => c ≠ '"' ∧ ¬(c = '-' ∧ behind.head? = some '-')

/-- The character that a piece contributes to the code. -/
def code? : Piece → Option Char
  | .code c => some c
  | _ => none

theorem text_ne_nil (p : Piece) : p.text ≠ [] := by
  cases p with
  | literal body closed => cases closed <;> simp [text]
  | comment body ended => cases ended <;> simp [text]
  | code c => simp [text]

end Piece

/-- The text that pieces make up. -/
def textOf (pieces : List Piece) : List Char :=
  pieces.flatMap Piece.text

theorem textOf_cons (p : Piece) (ps : List Piece) : textOf (p :: ps) = p.text ++ textOf ps :=
  List.flatMap_cons

theorem textOf_eq_nil {pieces : List Piece} (empty : textOf pieces = []) : pieces = [] := by
  cases pieces with
  | nil => rfl
  | cons p ps =>
    rw [textOf_cons, List.append_eq_nil_iff] at empty
    exact absurd empty.1 p.text_ne_nil

/-- The characters outside literals and comments. -/
def codeOf (pieces : List Piece) : List Char :=
  pieces.filterMap Piece.code?

@[simp] theorem codeOf_nil : codeOf [] = [] := rfl

@[simp] theorem codeOf_literal (body : List Char) (closed : Bool) (ps : List Piece) :
    codeOf (.literal body closed :: ps) = codeOf ps := rfl

@[simp] theorem codeOf_comment (body : List Char) (ended : Bool) (ps : List Piece) :
    codeOf (.comment body ended :: ps) = codeOf ps := rfl

@[simp] theorem codeOf_code (c : Char) (ps : List Piece) :
    codeOf (.code c :: ps) = c :: codeOf ps := rfl

/-- Whether every piece fits in front of those behind it. -/
def Fitting : List Piece → Prop
  | [] => True
  | p :: ps => p.Fits (textOf ps) ∧ Fitting ps

/-- A text as a sequence of literals, comments and characters of code. -/
structure Reading (cs : List Char) where
  pieces : List Piece
  text : textOf pieces = cs
  fitting : Fitting pieces

/-! ## Every text can be read -/

/-- A text behind a quote has a first quote that is not escaped, or none. -/
theorem unbroken_or_closed (cs : List Char) :
    Unbroken cs ∨ ∃ body rest, cs = body ++ '"' :: rest ∧ Unbroken body ∧ escapes body = false := by
  induction cs using List.reverseRecOn with
  | nil => exact .inl (unbroken_of_not_mem List.not_mem_nil)
  | append_singleton cs c ih =>
    obtain unbroken | ⟨body, rest, rfl, unbroken, closes⟩ := ih
    · by_cases ends : c = '"' ∧ escapes cs = false
      · exact .inr ⟨cs, [], by rw [ends.1], unbroken, ends.2⟩
      · refine .inl (unbroken.concat fun quote => ?_)
        simpa using not_and.mp ends quote
    · exact .inr ⟨body, rest ++ [c], by simp, unbroken, closes⟩

theorem exists_fitting (cs : List Char) : ∃ pieces, textOf pieces = cs ∧ Fitting pieces := by
  induction n : cs.length using Nat.strong_induction_on generalizing cs with
  | _ n ih =>
    subst n
    -- A piece is taken off the front, as far as it goes, and what is left is shorter.
    match cs with
    | [] => exact ⟨[], rfl, trivial⟩
    | c :: rest =>
      by_cases quote : c = '"'
      · subst quote
        obtain unbroken | ⟨body, rest, rfl, unbroken, closes⟩ := unbroken_or_closed rest
        · exact ⟨[.literal rest false], by simp [textOf, Piece.text], ⟨unbroken, rfl⟩, trivial⟩
        · obtain ⟨ps, whole, fitting⟩ := ih rest.length (by simp; omega) rest rfl
          exact ⟨.literal body true :: ps, by simp [textOf_cons, Piece.text, whole],
            ⟨unbroken, closes⟩, fitting⟩
      · by_cases dashes : c = '-' ∧ rest.head? = some '-'
        · obtain ⟨rfl, second⟩ := dashes
          obtain ⟨rest, rfl⟩ := List.head?_eq_some_iff.mp second
          by_cases newline : '\n' ∈ rest
          · obtain ⟨body, rest, rfl, oneLine⟩ := List.eq_append_cons_of_mem newline
            obtain ⟨ps, whole, fitting⟩ := ih rest.length (by simp; omega) rest rfl
            exact ⟨.comment body true :: ps, by simp [textOf_cons, Piece.text, whole],
              oneLine, fitting⟩
          · exact ⟨[.comment rest false], by simp [textOf, Piece.text], ⟨newline, rfl⟩, trivial⟩
        · obtain ⟨ps, whole, fitting⟩ := ih rest.length (by simp) rest rfl
          exact ⟨.code c :: ps, by simp [textOf_cons, Piece.text, whole],
            ⟨quote, by rw [whole]; exact dashes⟩, fitting⟩

theorem exists_reading (cs : List Char) : Nonempty (Reading cs) := by
  obtain ⟨pieces, text, fitting⟩ := exists_fitting cs
  exact ⟨⟨pieces, text, fitting⟩⟩

/-! ## No text can be read in two ways -/

/-- Two parts of a text that end with the same character are one, if neither goes on behind the
    end of the other. -/
theorem parts_unique {body body' rest rest' : List Char} {stop : Char}
    (ends : ∀ more, body ≠ body' ++ stop :: more) (ends' : ∀ more, body' ≠ body ++ stop :: more)
    (same : body ++ stop :: rest = body' ++ stop :: rest') : body = body' ∧ rest = rest' := by
  obtain ⟨more, longer, behind⟩ | ⟨more, longer, behind⟩ := List.append_eq_append_iff.mp same
  · cases more with
    | nil => exact ⟨by simpa using longer.symm, by simpa using behind⟩
    | cons c more => exact absurd ((List.cons.inj behind).1 ▸ longer) (ends' more)
  · cases more with
    | nil => exact ⟨by simpa using longer, by simpa using behind.symm⟩
    | cons c more => exact absurd ((List.cons.inj behind).1 ▸ longer) (ends more)

theorem Unbroken.ne_closed {body body' : List Char} (unbroken : Unbroken body)
    (closes : escapes body' = false) (more : List Char) : body ≠ body' ++ '"' :: more := by
  intro parted
  have escaped := unbroken body' more parted
  rw [closes] at escaped
  cases escaped

theorem ne_ended {body body' : List Char} (oneLine : '\n' ∉ body) (more : List Char) :
    body ≠ body' ++ '\n' :: more :=
  fun parted => oneLine (parted ▸ List.mem_append_cons_self)

namespace Piece

theorem Fits.of_literal {behind body : List Char} {closed : Bool}
    (fits : (Piece.literal body closed).Fits behind) :
    Unbroken body ∧ (closed = false → behind = []) ∧ (closed = true → escapes body = false) := by
  cases closed with
  | true => exact ⟨fits.1, nofun, fun _ => fits.2⟩
  | false => exact ⟨fits.1, fun _ => fits.2, nofun⟩

theorem Fits.of_comment {behind body : List Char} {ended : Bool}
    (fits : (Piece.comment body ended).Fits behind) :
    '\n' ∉ body ∧ (ended = false → behind = []) := by
  cases ended with
  | true => exact ⟨fits, nofun⟩
  | false => exact ⟨fits.1, fun _ => fits.2⟩

variable {p : Piece} {behind rest : List Char}

theorem eq_literal (fits : p.Fits behind) (begins : p.text ++ behind = '"' :: rest) :
    ∃ body closed, p = .literal body closed := by
  cases p with
  | literal body closed => exact ⟨body, closed, rfl⟩
  | comment body ended => cases ended <;> simp [text] at begins
  | code c => exact absurd (List.cons.inj begins).1 fits.1

theorem eq_comment (fits : p.Fits behind) (begins : p.text ++ behind = '-' :: '-' :: rest) :
    ∃ body ended, p = .comment body ended := by
  cases p with
  | literal body closed => cases closed <;> simp [text] at begins
  | comment body ended => exact ⟨body, ended, rfl⟩
  | code c =>
    obtain ⟨dash, second⟩ := List.cons.inj begins
    exact absurd ⟨dash, List.head?_eq_some_iff.mpr ⟨rest, second⟩⟩ fits.2

theorem eq_code {c : Char} (noQuote : c ≠ '"') (noComment : ¬(c = '-' ∧ rest.head? = some '-'))
    (begins : p.text ++ behind = c :: rest) : p = .code c := by
  cases p with
  | literal body closed =>
    cases closed <;> exact absurd (List.cons.inj begins).1.symm noQuote
  | comment body ended =>
    cases ended
    all_goals
      obtain ⟨dash, second⟩ := List.cons.inj begins
      exact absurd ⟨dash.symm, List.head?_eq_some_iff.mpr ⟨_, second.symm⟩⟩ noComment
  | code c' => rw [(List.cons.inj begins).1]

end Piece

/-- What a closed part ends with; a part that is not closed ends with the text. -/
def ending (closed : Bool) (stop : Char) : List Char :=
  if closed then [stop] else []

theorem Piece.text_literal (body : List Char) (closed : Bool) :
    (Piece.literal body closed).text = '"' :: (body ++ ending closed '"') := by
  cases closed <;> simp [text, ending]

theorem Piece.text_comment (body : List Char) (ended : Bool) :
    (Piece.comment body ended).text = '-' :: '-' :: (body ++ ending ended '\n') := by
  cases ended <;> simp [text, ending]

/-- Two parts of a text are one, if neither goes on behind the end of the other. -/
theorem ending_unique {body body' rest rest' : List Char} {closed closed' : Bool} {stop : Char}
    (last : closed = false → rest = []) (last' : closed' = false → rest' = [])
    (ends : closed' = true → ∀ more, body ≠ body' ++ stop :: more)
    (ends' : closed = true → ∀ more, body' ≠ body ++ stop :: more)
    (same : body ++ ending closed stop ++ rest = body' ++ ending closed' stop ++ rest') :
    body = body' ∧ closed = closed' ∧ rest = rest' := by
  cases closed with
  | true =>
    cases closed' with
    | true =>
      have parted : body ++ stop :: rest = body' ++ stop :: rest' := by
        simpa [ending] using same
      obtain ⟨bodies, behind⟩ := parts_unique (ends rfl) (ends' rfl) parted
      exact ⟨bodies, rfl, behind⟩
    | false =>
      obtain rfl := last' rfl
      have longer : body' = body ++ stop :: rest := by simpa [ending] using same.symm
      exact absurd longer (ends' rfl rest)
  | false =>
    obtain rfl := last rfl
    cases closed' with
    | true =>
      have longer : body = body' ++ stop :: rest' := by simpa [ending] using same
      exact absurd longer (ends rfl rest')
    | false =>
      obtain rfl := last' rfl
      exact ⟨by simpa [ending] using same, rfl, rfl⟩

/-- The first piece of a text is determined by the text. -/
theorem fits_unique {p q : Piece} {rest rest' : List Char} (fits : p.Fits rest)
    (fits' : q.Fits rest') (same : p.text ++ rest = q.text ++ rest') : p = q ∧ rest = rest' := by
  cases p with
  | literal body closed =>
    rw [Piece.text_literal, List.cons_append] at same
    obtain ⟨body', closed', rfl⟩ := Piece.eq_literal fits' same.symm
    rw [Piece.text_literal, List.cons_append] at same
    obtain ⟨unbroken, last, closes⟩ := fits.of_literal
    obtain ⟨unbroken', last', closes'⟩ := fits'.of_literal
    obtain ⟨rfl, rfl, rfl⟩ := ending_unique last last'
      (fun closed => unbroken.ne_closed (closes' closed))
      (fun closed => unbroken'.ne_closed (closes closed)) (List.cons.inj same).2
    exact ⟨rfl, rfl⟩
  | comment body ended =>
    rw [Piece.text_comment, List.cons_append, List.cons_append] at same
    obtain ⟨body', ended', rfl⟩ := Piece.eq_comment fits' same.symm
    rw [Piece.text_comment, List.cons_append, List.cons_append] at same
    obtain ⟨oneLine, last⟩ := fits.of_comment
    obtain ⟨oneLine', last'⟩ := fits'.of_comment
    obtain ⟨rfl, rfl, rfl⟩ := ending_unique last last' (fun _ => ne_ended oneLine)
      (fun _ => ne_ended oneLine') (List.cons.inj (List.cons.inj same).2).2
    exact ⟨rfl, rfl⟩
  | code c =>
    obtain rfl := Piece.eq_code fits.1 fits.2 same.symm
    exact ⟨rfl, by simpa [Piece.text] using same⟩

theorem fitting_unique {ps qs : List Piece} (fitting : Fitting ps) (fitting' : Fitting qs)
    (same : textOf ps = textOf qs) : ps = qs := by
  induction ps generalizing qs with
  | nil => exact (textOf_eq_nil same.symm).symm
  | cons p ps ih =>
    cases qs with
    | nil => exact textOf_eq_nil same
    | cons q qs =>
      rw [textOf_cons, textOf_cons] at same
      obtain ⟨rfl, behind⟩ := fits_unique fitting.1 fitting'.1 same
      rw [ih fitting.2 fitting'.2 behind]

theorem reading_unique {cs : List Char} (r q : Reading cs) : r = q := by
  obtain ⟨ps, text, fitting⟩ := r
  obtain ⟨qs, text', fitting'⟩ := q
  obtain rfl := fitting_unique fitting fitting' (text.trans text'.symm)
  rfl

/-! ## The scanner and the reading -/

namespace Piece

/-- How the scanner leaves a piece that it has met in code. -/
def leaves : Piece → Mode
  | .literal body false => .literal (escapes body)
  | .comment _ false => .comment
  | .literal _ true | .comment _ true | .code _ => .code

/-- Code alone changes the depths. -/
def depths (d : Depths) : Piece → Depths
  | .code c => d.next c
  | .literal .. | .comment .. => d

/-- The scanner goes over a piece at once. -/
theorem scan_text (d : Depths) {p : Piece} {behind : List Char} (fits : p.Fits behind) :
    scan .code d (p.text ++ behind) = scan p.leaves (p.depths d) behind := by
  cases p with
  | literal body closed =>
    rw [text_literal, List.cons_append, scan_quote, List.append_assoc]
    cases closed with
    | true => exact scan_closing d behind fits.1 fits.2
    | false => exact scan_literal d behind fits.1
  | comment body ended =>
    obtain ⟨oneLine, -⟩ := fits.of_comment
    rw [text_comment, List.cons_append, List.cons_append, scan_dashes, List.append_assoc,
      scan_comment d _ oneLine]
    cases ended <;> rfl
  | code c => exact scan_plain d fits.1 fun dash second => fits.2 ⟨dash, second⟩

end Piece

/-- Whether a literal is left without its closing quote. -/
def LeavesLiteralOpen (pieces : List Piece) : Prop :=
  ∃ body, Piece.literal body false ∈ pieces

/-- The scanner ends inside a literal if one is left open, and counts the brackets of the code. -/
theorem scan_pieces (d : Depths) {pieces : List Piece} (fitting : Fitting pieces) :
    ((scan .code d (textOf pieces)).1.isLiteral = true ↔ LeavesLiteralOpen pieces) ∧
      ∀ k, (scan .code d (textOf pieces)).2.of k =
        d.of k + k.surplus (codeOf pieces) := by
  induction pieces generalizing d with
  | nil => exact ⟨by simp [textOf, scan, Mode.isLiteral, LeavesLiteralOpen], by simp [textOf, scan]⟩
  | cons p ps ih =>
    obtain ⟨fits, later⟩ := fitting
    rw [textOf_cons, Piece.scan_text d fits]
    obtain ⟨literal, counts⟩ := ih (p.depths d) later
    cases p with
    | literal body closed =>
      cases closed with
      | true => exact ⟨literal.trans (by simp [LeavesLiteralOpen]), counts⟩
      | false =>
        -- Nothing stands behind a literal that is left open.
        obtain rfl := textOf_eq_nil fits.2
        exact ⟨by simp [textOf, scan, Piece.leaves, Mode.isLiteral, LeavesLiteralOpen], counts⟩
    | comment body ended =>
      cases ended with
      | true => exact ⟨literal.trans (by simp [LeavesLiteralOpen]), counts⟩
      | false =>
        obtain rfl := textOf_eq_nil fits.2
        exact ⟨by simp [textOf, scan, Piece.leaves, Mode.isLiteral, LeavesLiteralOpen], counts⟩
    | code c =>
      refine ⟨literal.trans (by simp [LeavesLiteralOpen]), fun k => ?_⟩
      rw [codeOf_code, k.surplus_cons c (codeOf ps), ← Int.add_assoc, ← d.next_of c k]
      exact counts k

end NotebookKernel.Cell
