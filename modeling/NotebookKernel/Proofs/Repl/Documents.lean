import Mathlib.Data.List.TakeWhile
import NotebookKernel.Proofs.Text.Blank
import NotebookKernel.Proofs.Text.Utf8
import NotebookKernel.Repl.Framing

/-! # The documents of a stream

`Framing.read` walks over a stream once for every document.  Here a stream is split as a
whole: into lines at its newlines, the lines at the blank ones, and every run of lines in front
of a blank line is a document.  `read_spec` says that one read takes the first document off this
split, whatever the stream goes on with, and that it fails exactly if the split is empty.

A stream that has not ended may go on, and then its last line may turn out longer; `GoesOn` says
what can follow.
-/

namespace NotebookKernel.Framing

open NotebookKernel.Text (Bytes)

/-! ## The split -/

/-- The lines of a stream with their ends: what stands in front of each newline, and, when the
    stream has ended, what stands behind the last one. -/
def streamLines (ended : Bool) (stream : Bytes) : List Bytes :=
  let segments := stream.splitOn 0x0A
  let begun := segments.getLastD []
  segments.dropLast.map (· ++ [0x0A]) ++ if ended && !begun.isEmpty then [begun] else []

/-- The texts of the lines of a stream, up to the first line that is not UTF-8. -/
def textLines : List Bytes → List (List Char)
  | [] => []
  | line :: rest =>
    match Text.decode line with
    | .error _ => []
    | .ok cs => cs :: textLines rest

/-- Whether nothing remains of a line when it is trimmed. -/
def isBlankLine (line : List Char) : Bool :=
  (Text.trim line).isEmpty

/-- The runs of lines that are not blank.  Behind the last blank line a run is no document. -/
def documents (lines : List (List Char)) : List String :=
  ((lines.splitOnP isBlankLine).dropLast.filter (· ≠ [])).map fun run => String.ofList run.flatten

/-- Why there are no more documents: a line that is not UTF-8, or the end. -/
def obstacle : List Bytes → EngineError
  | [] => .processDied
  | line :: rest =>
    match Text.decode line with
    | .error fault => .io fault.message
    | .ok _ => obstacle rest

/-- The documents of a stream. -/
def documentsOf (ended : Bool) (stream : Bytes) : List String :=
  documents (textLines (streamLines ended stream))

/-- What stands behind the last document of a stream. -/
def obstacleOf (ended : Bool) (stream : Bytes) : EngineError :=
  obstacle (streamLines ended stream)

/-! ## Texts of lines -/

/-- The texts are as many as possible: the line behind them is the encoding of no text. -/
theorem textLines_spec (lines : List Bytes) :
    (textLines lines).map Text.encode <+: lines ∧
      ∀ line, lines[(textLines lines).length]? = some line → ∀ cs, Text.encode cs ≠ line := by
  induction lines with
  | nil => exact ⟨List.nil_prefix, nofun⟩
  | cons line rest ih =>
    cases decoded : Text.decode line with
    | error fault =>
      simp only [textLines, decoded]
      refine ⟨List.nil_prefix, fun next first cs encoded => ?_⟩
      cases first
      rw [Text.decode_eq_ok_iff.mpr encoded] at decoded
      cases decoded
    | ok cs =>
      simp only [textLines, decoded, List.map_cons, Text.decode_eq_ok_iff.mp decoded,
        List.length_cons, List.getElem?_cons_succ]
      exact ⟨List.cons_prefix_cons.mpr ⟨rfl, ih.1⟩, ih.2⟩

/-! ## Blank lines -/

theorem isBlankLine_eq (line : List Char) : isBlankLine line = Text.isBlankText line := by
  rw [Bool.eq_iff_iff, isBlankLine, List.isEmpty_iff, Text.trim_eq_nil_iff, Text.isBlankText,
    List.all_eq_true]

/-! ## One document of the split -/

theorem documents_cons_of_blank {line : List Char} (blank : isBlankLine line = true)
    (lines : List (List Char)) : documents (line :: lines) = documents lines := by
  have more : lines.splitOnP isBlankLine ≠ [] := List.splitOnP_ne_nil isBlankLine lines
  simp [documents, List.splitOnP_cons_eq_if_modifyHead, blank, List.dropLast_cons_of_ne_nil more]

theorem documents_run {run : List (List Char)} (nonempty : run ≠ [])
    (solid : ∀ line ∈ run, isBlankLine line = false) {line : List Char}
    (blank : isBlankLine line = true) (lines : List (List Char)) :
    documents (run ++ line :: lines) = String.ofList run.flatten :: documents lines := by
  have more : lines.splitOnP isBlankLine ≠ [] := List.splitOnP_ne_nil isBlankLine lines
  simp [documents, List.splitOnP_append_cons_of_forall_mem solid line blank,
    List.dropLast_cons_of_ne_nil more, nonempty]

theorem documents_of_solid {run : List (List Char)}
    (solid : ∀ line ∈ run, isBlankLine line = false) : documents run = [] := by
  simp [documents, List.splitOnP_eq_singleton solid]

/-! ## Reading lines -/

/-- Reading lines takes the first document off the split.  The run that has been read so far is
    `reversed`; the lines up to the blank one are used up, and what comes after them plays no
    part. -/
theorem readLines_spec (reversed : List (List Char)) (lines : List Bytes)
    (solid : ∀ line ∈ reversed, isBlankLine line = false) :
    match readLines reversed lines with
    | .error e => documents (reversed.reverse ++ textLines lines) = [] ∧ e = obstacle lines
    | .ok (document, rest) =>
      ∃ front, lines = front ++ rest ∧ ∀ more,
        documents (reversed.reverse ++ textLines (front ++ more)) =
          document :: documents (textLines more) ∧
        obstacle (front ++ more) = obstacle more := by
  induction lines generalizing reversed with
  | nil =>
    simp only [readLines, textLines, obstacle, List.append_nil, and_true]
    exact documents_of_solid (by simpa using solid)
  | cons line lines ih =>
    cases decoded : Text.decode line with
    | error fault =>
      simp only [readLines, textLines, obstacle, decoded, List.append_nil, and_true]
      exact documents_of_solid (by simpa using solid)
    | ok cs =>
      by_cases blank : Text.isBlankText cs = true
      · have blankLine : isBlankLine cs = true := by rw [isBlankLine_eq, blank]
        cases reversed with
        | nil =>
          -- A blank line in front of a document is passed over.
          have next := ih [] solid
          simp only [readLines, decoded, blank, List.isEmpty_nil, if_true]
          cases outcome : readLines [] lines with
          | error e =>
            rw [outcome] at next
            simpa [textLines, obstacle, decoded, documents_cons_of_blank blankLine] using next
          | ok result =>
            rw [outcome] at next
            obtain ⟨front, rfl, split⟩ := next
            refine ⟨line :: front, rfl, fun more => ?_⟩
            simpa [textLines, obstacle, decoded, documents_cons_of_blank blankLine] using split more
        | cons last earlier =>
          -- The blank line ends the run, and the reader stops here.
          simp only [readLines, decoded, blank, List.isEmpty_cons, if_true]
          refine ⟨[line], rfl, fun more => ?_⟩
          have nonempty : (last :: earlier).reverse ≠ [] := by simp
          have run := documents_run nonempty (by simpa [or_comm] using solid) blankLine
            (textLines more)
          simpa [textLines, obstacle, decoded] using run
      · -- The line joins the run, which is in front of the lines on both sides.
        have solidLine : isBlankLine cs = false := by rw [isBlankLine_eq]; simpa using blank
        have next := ih (cs :: reversed) (by
          intro l member
          obtain rfl | member := List.mem_cons.mp member
          · exact solidLine
          · exact solid l member)
        simp only [readLines, decoded, blank]
        cases outcome : readLines (cs :: reversed) lines with
        | error e =>
          rw [outcome] at next
          simpa [textLines, obstacle, decoded] using next
        | ok result =>
          rw [outcome] at next
          obtain ⟨front, rfl, split⟩ := next
          refine ⟨line :: front, rfl, fun more => ?_⟩
          simpa [textLines, obstacle, decoded] using split more

/-! ## How a stream goes on -/

/-- A stream, ended or not, can go on with `more` and then have ended or not. -/
def GoesOn (ended : Bool) (more : Bytes) (later : Bool) : Prop :=
  ended = true → more = [] ∧ later = true

theorem GoesOn.refl (ended : Bool) : GoesOn ended [] ended :=
  fun isEnded => ⟨rfl, isEnded⟩

theorem GoesOn.trans {ended later last : Bool} {more rest : Bytes} (first : GoesOn ended more later)
    (second : GoesOn later rest last) : GoesOn ended (more ++ rest) last := by
  intro isEnded
  obtain ⟨rfl, isEnded⟩ := first isEnded
  obtain ⟨rfl, isEnded⟩ := second isEnded
  exact ⟨rfl, isEnded⟩

/-! ## Cutting lines off a stream -/

theorem cutWholeFrom_eq (current stream : Bytes) :
    let segments := stream.splitOnPPrepend (· == 0x0A) current
    Text.cutWholeFrom current stream =
      (segments.dropLast.map (· ++ [0x0A]), segments.getLastD []) := by
  induction stream generalizing current with
  | nil => simp [Text.cutWholeFrom]
  | cons b rest ih =>
    by_cases isEnd : b = 0x0A
    · subst isEnd
      have whole := ih []
      rw [← List.splitOnP.eq_1] at whole
      obtain ⟨next, others, split⟩ :=
        List.exists_cons_of_ne_nil (List.splitOnP_ne_nil (· == 0x0A) rest)
      rw [split] at whole
      rw [List.splitOnPPrepend_cons_pos rfl, split]
      simp only [Text.cutWholeFrom, if_true, whole, List.reverse_cons]
      rfl
    · rw [List.splitOnPPrepend_cons_neg (by simpa using isEnd)]
      simp only [Text.cutWholeFrom, isEnd, if_false]
      exact ih (b :: current)

theorem cutLinesFrom_eq (current stream : Bytes) :
    Text.cutLinesFrom current stream =
      (Text.cutWholeFrom current stream).1 ++
        if (Text.cutWholeFrom current stream).2.isEmpty then []
        else [(Text.cutWholeFrom current stream).2] := by
  induction stream generalizing current with
  | nil => simp [Text.cutLinesFrom, Text.cutWholeFrom]
  | cons b rest ih =>
    by_cases isEnd : b = 0x0A
    · simp [Text.cutLinesFrom, Text.cutWholeFrom, isEnd, ih]
    · simp [Text.cutLinesFrom, Text.cutWholeFrom, isEnd, ih]

/-- The reader's lines are those between the newlines. -/
theorem linesOf_fst (ended : Bool) (stream : Bytes) :
    (linesOf ended stream).1 = streamLines ended stream := by
  have whole := cutWholeFrom_eq [] stream
  unfold streamLines List.splitOn List.splitOnP
  cases ended with
  | false => simp [linesOf, Text.cutWhole, whole]
  | true =>
    simp only [linesOf, if_true, Text.cutLines, cutLinesFrom_eq, whole]
    cases begun : (List.getLastD (List.splitOnPPrepend (· == 0x0A) stream []) []).isEmpty <;>
      simp

theorem flatten_cutWholeFrom (current stream : Bytes) :
    (Text.cutWholeFrom current stream).1.flatten ++ (Text.cutWholeFrom current stream).2 =
      current.reverse ++ stream := by
  induction stream generalizing current with
  | nil => simp [Text.cutWholeFrom]
  | cons b rest ih =>
    by_cases isEnd : b = 0x0A
    · simp [Text.cutWholeFrom, isEnd, ih]
    · simp [Text.cutWholeFrom, isEnd, ih]

/-- The lines of a stream and what is left behind them are the stream. -/
theorem flatten_linesOf (ended : Bool) (stream : Bytes) :
    (linesOf ended stream).1.flatten ++ (linesOf ended stream).2 = stream := by
  cases ended with
  | true => simp [linesOf, Text.flatten_cutLines]
  | false => exact flatten_cutWholeFrom [] stream

theorem cutLinesFrom_tail {current stream line : Bytes} {lines : List Bytes}
    (cut : Text.cutLinesFrom current stream = line :: lines) :
    Text.cutLinesFrom [] lines.flatten = lines := by
  induction stream generalizing current with
  | nil =>
    cases current with
    | nil => cases cut
    | cons b rest =>
      simp only [Text.cutLinesFrom, List.isEmpty_cons, Bool.false_eq_true, if_false] at cut
      obtain ⟨rfl, rfl⟩ := List.cons.inj cut
      rfl
  | cons b rest ih =>
    by_cases isEnd : b = 0x0A
    · simp only [Text.cutLinesFrom, isEnd, if_true] at cut
      obtain ⟨-, rfl⟩ := List.cons.inj cut
      rw [Text.flatten_cutLinesFrom, List.reverse_nil, List.nil_append]
    · simp only [Text.cutLinesFrom, isEnd, if_false] at cut
      exact ih cut

/-- A line that has its end stays as it is when the stream goes on. -/
theorem linesFrom_append_of_whole {current stream line : Bytes} {lines : List Bytes}
    (cut : (Text.cutWholeFrom current stream).1 = line :: lines) (more : Bytes) :
    let rest := lines.flatten ++ (Text.cutWholeFrom current stream).2
    Text.cutWholeFrom [] rest = (lines, (Text.cutWholeFrom current stream).2) ∧
    (Text.cutWholeFrom current (stream ++ more)).1 =
      line :: (Text.cutWholeFrom [] (rest ++ more)).1 ∧
    Text.cutLinesFrom current (stream ++ more) = line :: Text.cutLinesFrom [] (rest ++ more) := by
  induction stream generalizing current with
  | nil => cases cut
  | cons b rest ih =>
    by_cases isEnd : b = 0x0A
    · simp only [Text.cutWholeFrom, isEnd, if_true] at cut ⊢
      obtain ⟨rfl, rfl⟩ := List.cons.inj cut
      have joined := flatten_cutWholeFrom [] rest
      simp only [List.reverse_nil, List.nil_append] at joined
      simp [Text.cutWholeFrom, Text.cutLinesFrom, joined]
    · simp only [Text.cutWholeFrom, isEnd, if_false] at cut ⊢
      simpa [Text.cutWholeFrom, Text.cutLinesFrom, isEnd] using ih cut

/-- Taking the first line off a stream. -/
theorem linesOf_tail {ended later : Bool} {stream more line : Bytes} {lines : List Bytes}
    (cut : (linesOf ended stream).1 = line :: lines) (goesOn : GoesOn ended more later) :
    let rest := lines.flatten ++ (linesOf ended stream).2
    linesOf ended rest = (lines, (linesOf ended stream).2) ∧
    (linesOf later (stream ++ more)).1 = line :: (linesOf later (rest ++ more)).1 := by
  cases ended with
  | true =>
    -- Nothing comes behind a stream that has ended, so its last line may be cut off without an end.
    obtain ⟨rfl, rfl⟩ := goesOn rfl
    simp only [linesOf, if_true, List.append_nil, Text.cutLines] at cut ⊢
    have tail := cutLinesFrom_tail cut
    simp [tail, cut]
  | false =>
    obtain ⟨same, whole, all⟩ := linesFrom_append_of_whole cut more
    refine ⟨same, ?_⟩
    cases later with
    | true => exact all
    | false => exact whole

/-- Taking lines off the front of a stream. -/
theorem linesOf_append {ended later : Bool} {stream more : Bytes} {front lines : List Bytes}
    (cut : (linesOf ended stream).1 = front ++ lines) (goesOn : GoesOn ended more later) :
    (linesOf later (stream ++ more)).1 =
      front ++ (linesOf later (lines.flatten ++ (linesOf ended stream).2 ++ more)).1 := by
  induction front generalizing stream with
  | nil =>
    rw [List.nil_append] at cut
    rw [List.nil_append, ← cut, flatten_linesOf]
  | cons line front ih =>
    rw [List.cons_append] at cut
    obtain ⟨same, first⟩ := linesOf_tail cut goesOn
    have next := ih (by rw [same])
    rw [same] at next
    rw [first, next, List.cons_append]

/-! ## Reading a document -/

/-- One read takes the first document off the split of the stream, however the stream goes on;
    if there is none, the read fails with what stands in its place. -/
theorem read_spec (ended : Bool) (stream : Bytes) :
    match read ended stream with
    | .error e => documentsOf ended stream = [] ∧ e = obstacleOf ended stream
    | .ok (document, unread) =>
      ∀ more later, GoesOn ended more later →
        documentsOf later (stream ++ more) = document :: documentsOf later (unread ++ more) ∧
        obstacleOf later (stream ++ more) = obstacleOf later (unread ++ more) := by
  have spec := readLines_spec [] (linesOf ended stream).1 (by simp)
  unfold documentsOf obstacleOf read
  simp only [← linesOf_fst]
  cases outcome : readLines [] (linesOf ended stream).1 with
  | error e =>
    rw [outcome] at spec
    simpa [Except.map, outcome] using spec
  | ok result =>
    obtain ⟨document, rest⟩ := result
    rw [outcome] at spec
    obtain ⟨front, cut, split⟩ := spec
    simp only [Except.map]
    intro more later goesOn
    rw [linesOf_append cut goesOn]
    exact split _

end NotebookKernel.Framing
