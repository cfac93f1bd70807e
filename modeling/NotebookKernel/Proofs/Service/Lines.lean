import NotebookKernel.Proofs.Json.Printable
import NotebookKernel.Proofs.Repl.Requests
import NotebookKernel.Service.Lines

/-! # Lines in and lines out

What the service makes of the bytes around a line does not depend on how they are read: only
the lines that are left when blanks are cut off count (`answerLines_eq`).  What it writes can be
taken apart at the newlines again, because no reply contains one (`splitOn_lines`).
-/

namespace NotebookKernel.Service

open NotebookKernel.Text (Bytes bytesOf encode)

/-! ## Lines in -/

/-- The lines of an input without their ends.  Nothing behind the last newline is no line. -/
def inputLines (input : Bytes) : List Bytes :=
  let segments := input.splitOn 0x0A
  let last := segments.getLastD []
  segments.dropLast ++ if last.isEmpty then [] else [last]

/-- What is left of lines without the blanks around them, if anything is. -/
def trimmedLines (lines : List Bytes) : List Bytes :=
  (lines.map trimAscii).filter (!·.isEmpty)

theorem trimAscii_newline (line : Bytes) : trimAscii (line ++ [0x0A]) = trimAscii line := by
  have newline : isAsciiBlank 0x0A = true := rfl
  unfold trimAscii
  rw [List.dropWhile_append]
  split
  next blank => simp [List.isEmpty_iff.mp blank, newline]
  next => simp [newline]

/-- It makes no difference that the lines are read with their ends. -/
theorem map_trimAscii_cutLines (input : Bytes) :
    (Text.cutLines input).map trimAscii = (inputLines input).map trimAscii := by
  have lines : Text.cutLines input = Framing.streamLines true input :=
    Framing.linesOf_fst true input
  have ends : trimAscii ∘ (· ++ [0x0A]) = trimAscii := funext trimAscii_newline
  simp only [lines, Framing.streamLines, inputLines, Bool.true_and, List.map_append, List.map_map,
    ends]
  congr 1
  cases ((input.splitOn 0x0A).getLastD []).isEmpty <;> rfl

variable {ε : Type}

/-- Answer lines that are neither blank nor have blanks around them. -/
def answerAll (E : Engine ε) (s : Service ε) : List Bytes → List Reply × Service ε
  | [] => ([], s)
  | line :: rest =>
    let (answer, s) := answerLine E s line
    if answer.last then ([answer.reply], s)
    else
      let (replies, s) := answerAll E s rest
      (answer.reply :: replies, s)

theorem answerLines_eq (E : Engine ε) (s : Service ε) (lines : List Bytes) :
    answerLines E s lines = answerAll E s (trimmedLines lines) := by
  induction lines generalizing s with
  | nil => rfl
  | cons line rest ih =>
    unfold answerLines trimmedLines
    dsimp only
    split
    next blank =>
      rw [ih, List.map_cons, List.filter_cons_of_neg (by simpa using blank), trimmedLines]
    next solid =>
      rw [List.map_cons, List.filter_cons_of_pos (by simpa using solid), answerAll]
      simp only [ih, trimmedLines]

theorem answerLines_cutLines (E : Engine ε) (s : Service ε) (input : Bytes) :
    answerLines E s (Text.cutLines input) = answerAll E s (trimmedLines (inputLines input)) := by
  rw [answerLines_eq, trimmedLines, map_trimAscii_cutLines]
  rfl

/-! ## Lines out -/

theorem splitOn_lines {lines : List Bytes} (single : ∀ line ∈ lines, 0x0A ∉ line) :
    (lines.flatMap (· ++ [0x0A])).splitOn 0x0A = lines ++ [[]] := by
  induction lines with
  | nil => rfl
  | cons line rest ih =>
    have plain : ∀ b ∈ line, (b == 0x0A) = false := by
      intro b member
      refine beq_eq_false_iff_ne.mpr fun newline => ?_
      exact single line (by simp) (newline ▸ member)
    rw [List.flatMap_cons, List.append_assoc, List.singleton_append, List.splitOn,
      List.splitOnP_append_cons_of_forall_mem plain 0x0A rfl, List.cons_append]
    exact congrArg (line :: ·) (ih fun other member =>
      single other (List.mem_cons_of_mem line member))

/-- The bytes of a reply. -/
def replyLine (b : Reply) : Bytes :=
  bytesOf b.encode

theorem newline_not_mem_replyLine (b : Reply) : 0x0A ∉ replyLine b := by
  have text : b.encode.toList = b.toJson.render := String.toList_ofList
  rw [replyLine, bytesOf, text]
  refine Framing.newline_not_mem_encode fun member => ?_
  have printable := b.toJson.printable '\n' member
  revert printable
  decide

theorem bytesOf_join (replies : List Reply) :
    bytesOf (String.join (replies.map fun b => b.encode ++ "\n")) =
      (replies.map replyLine).flatMap (· ++ [0x0A]) := by
  induction replies with
  | nil => rfl
  | cons b replies ih =>
    have newline : encode "\n".toList = [0x0A] := rfl
    rw [List.map_cons, String.join_cons, List.map_cons, List.flatMap_cons, ← ih, bytesOf,
      String.toList_append, String.toList_append, Text.encode_append, Text.encode_append, newline]
    rfl

theorem serve_fst (E : Engine ε) (s : Service ε) (input : Bytes) :
    (serve E s input).1 = String.join
      ((answerAll E s (trimmedLines (inputLines input))).1.map fun b => b.encode ++ "\n") := by
  rw [← answerLines_cutLines]
  rfl

theorem serve_snd (E : Engine ε) (s : Service ε) (input : Bytes) :
    (serve E s input).2 = (answerAll E s (trimmedLines (inputLines input))).2 := by
  rw [← answerLines_cutLines]
  rfl

/-- The replies are found between the newlines of the output. -/
theorem splitOn_serve (E : Engine ε) (s : Service ε) (input : Bytes) :
    (bytesOf (serve E s input).1).splitOn 0x0A =
      (answerAll E s (trimmedLines (inputLines input))).1.map replyLine ++ [[]] := by
  rw [serve_fst, bytesOf_join, splitOn_lines]
  intro line member
  obtain ⟨b, _, rfl⟩ := List.mem_map.mp member
  exact newline_not_mem_replyLine b

end NotebookKernel.Service
