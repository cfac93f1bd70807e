import NotebookKernel.Engine.Command
import NotebookKernel.Proofs.Json.RoundTrip
import NotebookKernel.Proofs.Repl.Documents

/-! # Requests on the wire

A command travels as a JSON document and a blank line.  Its text is a single line that is not
blank, whatever the code is, so a reader of documents finds where it ends; and the text is
read back as the members that the command has.
-/

namespace NotebookKernel

open NotebookKernel.Text (Bytes bytesOf encode)

namespace Framing

/-! ## Lines that are written -/

theorem cutLinesFrom_line (current : Bytes) {line : Bytes} (single : 0x0A ∉ line) (rest : Bytes) :
    Text.cutLinesFrom current (line ++ 0x0A :: rest) =
      (current.reverse ++ line ++ [0x0A]) :: Text.cutLinesFrom [] rest := by
  induction line generalizing current with
  | nil => simp [Text.cutLinesFrom]
  | cons b line ih =>
    obtain ⟨other, single⟩ := not_or.mp (mt List.mem_cons.mpr single)
    simp [Text.cutLinesFrom, Ne.symm other, ih (b :: current) single]

theorem cutWholeFrom_line (current : Bytes) {line : Bytes} (single : 0x0A ∉ line) (rest : Bytes) :
    Text.cutWholeFrom current (line ++ 0x0A :: rest) =
      ((current.reverse ++ line ++ [0x0A]) :: (Text.cutWholeFrom [] rest).1,
        (Text.cutWholeFrom [] rest).2) := by
  induction line generalizing current with
  | nil => simp [Text.cutWholeFrom]
  | cons b line ih =>
    obtain ⟨other, single⟩ := not_or.mp (mt List.mem_cons.mpr single)
    simp [Text.cutWholeFrom, Ne.symm other, ih (b :: current) single]

/-- Bytes up to a newline are a line, whether the stream goes on or not. -/
theorem linesOf_line {line : Bytes} (single : 0x0A ∉ line) (ended : Bool) (rest : Bytes) :
    linesOf ended (line ++ 0x0A :: rest) =
      ((line ++ [0x0A]) :: (linesOf ended rest).1, (linesOf ended rest).2) := by
  cases ended with
  | true => simp [linesOf, Text.cutLines, cutLinesFrom_line [] single]
  | false => exact cutWholeFrom_line [] single rest

theorem newline_not_mem_encode {cs : List Char} (single : '\n' ∉ cs) : 0x0A ∉ encode cs := by
  intro member
  obtain high | ⟨c, inside, same⟩ := Text.mem_encode member
  · revert high
    decide
  · have newline : c = '\n' := Char.toNat_inj.mp same.symm
    exact single (newline ▸ inside)

theorem write_eq (request : String) (more : Bytes) :
    write request ++ more = encode request.toList ++ 0x0A :: ([] ++ 0x0A :: more) := by
  simp [write, bytesOf]
  rfl

/-- A request on a single line, and not a blank one. -/
structure SingleLine (request : String) : Prop where
  single : '\n' ∉ request.toList
  solid : Text.isBlankText request.toList = false

/-- Such a request is read as it has been written, and nothing else is used up. -/
theorem SingleLine.read_write {request : String} (h : SingleLine request) (ended : Bool)
    (more : Bytes) : read ended (write request ++ more) = .ok (request ++ "\n", more) := by
  have decodedLine : Text.decode (encode request.toList ++ [0x0A]) =
      .ok (request.toList ++ ['\n']) := by
    have newline : encode request.toList ++ [0x0A] = encode (request.toList ++ ['\n']) := by
      rw [Text.encode_append]
      rfl
    rw [newline, Text.decode_encode]
  have solidLine : Text.isBlankText (request.toList ++ ['\n']) = false := by
    have solid := h.solid
    rw [Text.isBlankText] at solid ⊢
    rw [List.all_append, solid, Bool.false_and]
  have decodedEnd : Text.decode ([] ++ [0x0A]) = .ok ['\n'] := rfl
  have blankEnd : Text.isBlankText ['\n'] = true := by decide
  have text : String.ofList (request.toList ++ ['\n']) = request ++ "\n" := by
    rw [← String.toList_inj, String.toList_ofList, String.toList_append]
    rfl
  rw [write_eq, read, linesOf_line (newline_not_mem_encode h.single), linesOf_line (by simp)]
  simp only [readLines, decodedLine, solidLine, decodedEnd, blankEnd, List.isEmpty_cons,
    Bool.false_eq_true, if_true, if_false, Except.map, List.reverse_singleton,
    List.flatten_singleton, text, flatten_linesOf]

/-! ## Trimming -/

/-- A text without the blank characters at its ends. -/
def trimmed (text : String) : String :=
  String.ofList (Text.trim text.toList)

theorem trim_line {first last : Char} {cs : List Char} (solidFirst : Text.isBlank first = false)
    (solidLast : Text.isBlank last = false) :
    Text.trim (first :: cs ++ [last] ++ ['\n']) = first :: cs ++ [last] := by
  have blank : Text.isBlank '\n' = true := by decide
  simp [Text.trim, Text.trimEnd, solidFirst, solidLast, blank]

end Framing

namespace Command

variable {c : Command}

/-! ## The text of a command -/

/-- The members of a command: its code, and its environment if it has one. -/
def members (c : Command) : Json.Members :=
  match c.env with
  | none => [("cmd", .string c.code)]
  | some n => [("cmd", .string c.code), ("env", .integer n)]

theorem toJson_eq (c : Command) : c.toJson = .object c.members := by
  unfold toJson members
  cases c.env <;> rfl

theorem exact_members (bounded : ∀ n ∈ c.env, n < Nat.pow 2 64) (depth : Nat) :
    ∀ m ∈ c.members, m.2.Exact depth := by
  obtain ⟨code, env⟩ := c
  intro m member
  cases env with
  | none =>
    obtain rfl := List.mem_singleton.mp member
    exact .string code
  | some n =>
    have small : n < Nat.pow 2 64 := bounded n rfl
    obtain rfl | member := List.mem_cons.mp member
    · exact .string code
    · obtain rfl := List.mem_singleton.mp member
      exact .integer (by omega) (by omega)

theorem exact_toJson (bounded : ∀ n ∈ c.env, n < Nat.pow 2 64) : c.toJson.Exact Json.greatestDepth := by
  rw [toJson_eq]
  show Json.Value.Exact (126 + 1) _
  exact .object (exact_members bounded 126)

/-- The members are in the order of their keys. -/
theorem canonical_toJson (c : Command) : c.toJson.canonical = .object c.members := by
  have ascending : "cmd" < "env" := by decide
  obtain ⟨code, env⟩ := c
  rw [toJson_eq]
  cases env with
  | none => rfl
  | some n =>
    simp [members, Json.Value.canonical, Json.canonicalMembers, Json.addMember, ascending]

theorem parse_document (bounded : ∀ n ∈ c.env, n < Nat.pow 2 64) :
    Json.parse (bytesOf c.document) = .ok (.object c.members) := by
  rw [document, Json.parse_compact (exact_toJson bounded), canonical_toJson]

theorem toList_document (c : Command) : c.document.toList = c.toJson.render := by
  rw [document, Json.Value.compact, String.toList_ofList]

/-- The text of a command stands between braces. -/
theorem document_braces (c : Command) :
    ∃ cs, c.document.toList = '\x7b' :: cs ++ ['\x7d'] := by
  rw [toList_document, toJson_eq, Json.Value.render]
  exact ⟨_, rfl⟩

theorem singleLine_document (bounded : ∀ n ∈ c.env, n < Nat.pow 2 64) :
    Framing.SingleLine c.document where
  single := by
    rw [toList_document]
    intro member
    have printable := Json.printable_render (exact_toJson bounded) '\n' member
    revert printable
    decide
  solid := by
    have brace : Text.isBlank '\x7b' = false := by decide
    obtain ⟨cs, text⟩ := document_braces c
    rw [text]
    simp [Text.isBlankText, brace]

theorem trimmed_document (c : Command) : Framing.trimmed (c.document ++ "\n") = c.document := by
  obtain ⟨cs, text⟩ := document_braces c
  have trim : Text.trim (c.document.toList ++ ['\n']) = c.document.toList := by
    rw [text]
    exact Framing.trim_line (by decide) (by decide)
  have line : (c.document ++ "\n").toList = c.document.toList ++ ['\n'] := String.toList_append
  rw [Framing.trimmed, line, trim, String.ofList_toList]

end Command

namespace Framing

/-! ## Requests one after the other -/

/-- Read so many documents, one after the other. -/
def readMany (ended : Bool) : Nat → Bytes → Except EngineError (List String × Bytes)
  | 0, stream => .ok ([], stream)
  | n + 1, stream =>
    match read ended stream with
    | .error e => .error e
    | .ok (document, rest) =>
      (readMany ended n rest).map fun (documents, rest) => (document :: documents, rest)

theorem readMany_write {requests : List String} (h : ∀ request ∈ requests, SingleLine request)
    (ended : Bool) (more : Bytes) :
    readMany ended requests.length (requests.flatMap write ++ more) =
      .ok (requests.map (· ++ "\n"), more) := by
  induction requests with
  | nil => rfl
  | cons request rest ih =>
    have first := h request (by simp)
    have others := ih fun other member => h other (List.mem_cons_of_mem request member)
    rw [List.flatMap_cons, List.append_assoc, List.length_cons, readMany, first.read_write]
    simp only [others, Except.map, List.map_cons]

theorem documentsOf_write {requests : List String} (h : ∀ request ∈ requests, SingleLine request) :
    documentsOf true (requests.flatMap write) = requests.map (· ++ "\n") := by
  induction requests with
  | nil => rfl
  | cons request rest ih =>
    have others := ih fun other member => h other (List.mem_cons_of_mem request member)
    have split := read_spec true (write request ++ rest.flatMap write)
    rw [(h request (by simp)).read_write] at split
    have first := (split [] true (.refl true)).1
    simp only [List.append_nil] at first
    rw [List.flatMap_cons, first, others, List.map_cons]

/-- Commands arrive as they have been sent, whatever their code is: a reader takes one document for
each command and nothing of what comes behind, nothing else in the stream is a document, and the
documents are the texts of the commands, which have the members of the commands. -/
theorem commands_arrive (commands : List Command)
    (bounded : ∀ c ∈ commands, ∀ n ∈ c.env, n < Nat.pow 2 64) (ended : Bool) (more : Bytes) :
    let stream := commands.flatMap fun c => write c.document
    ∃ documents,
      readMany ended commands.length (stream ++ more) = .ok (documents, more) ∧
      documentsOf true stream = documents ∧
      documents.map trimmed = commands.map Command.document ∧
      (documents.map fun document => Json.parse (bytesOf (trimmed document))) =
        commands.map fun c => .ok (.object c.members) := by
  intro stream
  let requests := commands.map Command.document
  have single : ∀ request ∈ requests, SingleLine request := by
    intro request member
    obtain ⟨c, inside, rfl⟩ := List.mem_map.mp member
    exact Command.singleLine_document (bounded c inside)
  have written : stream = requests.flatMap write := by
    rw [List.flatMap_map]
  have length : requests.length = commands.length := List.length_map _
  refine ⟨requests.map (· ++ "\n"), ?_, ?_, ?_, ?_⟩
  · rw [written, ← length]
    exact readMany_write single ended more
  · rw [written, documentsOf_write single]
  · rw [List.map_map, List.map_map]
    apply List.map_congr_left
    intro c _
    exact Command.trimmed_document c
  · rw [List.map_map, List.map_map]
    apply List.map_congr_left
    intro c inside
    simp only [Function.comp_apply, Command.trimmed_document]
    exact Command.parse_document (bounded c inside)

/-- Two commands with characters that are escaped, and the greatest environment. -/
theorem commands_arrive_escaped :
    let commands : List Command :=
      [⟨"#eval \"é\\\"\n", none⟩, ⟨"\t\x01", some 18446744073709551615⟩]
    (∀ c ∈ commands, ∀ n ∈ c.env, n < Nat.pow 2 64) ∧
    ∃ documents,
      readMany false 2 (commands.flatMap fun c => write c.document) = .ok (documents, []) ∧
      documents.map trimmed =
        ["\x7b\"cmd\":\"#eval \\\"é\\\\\\\"\\n\"\x7d",
          "\x7b\"cmd\":\"\\t\\u0001\",\"env\":18446744073709551615\x7d"] := by
  intro commands
  have bounded : ∀ c ∈ commands, ∀ n ∈ c.env, n < Nat.pow 2 64 := by decide
  obtain ⟨documents, read, -, trim, -⟩ := commands_arrive commands bounded false []
  rw [List.append_nil] at read
  refine ⟨bounded, documents, read, ?_⟩
  rw [trim]
  decide

end Framing

end NotebookKernel
