import NotebookKernel.Proofs.Json.Printable
import NotebookKernel.Proofs.Json.Shapes
import NotebookKernel.Proofs.Kernel.Replies

/-! # What a line says

The line of a reply is read back as an object of the shape of the reply, and no other reply has
this shape (`Reply.encode_faithful`).  Every structure has a shape that names all of its parts.
About each of them there are two lemmas: `shape_canonical`, that the structure is laid out in its
shape, and `shape_unique`, that the shape leaves no part of it open.
-/

namespace NotebookKernel

open NotebookKernel.Json
open NotebookKernel.Text (bytesOf)

open Json.Shape (record list texts text flag number lines agree_of_record record_canonical)

@[simp] theorem canonical_texts (ss : List String) :
    (textsToJson ss).canonical = .array (ss.map .string) := by
  rw [textsToJson, Value.canonical, canonicalItems_eq, List.map_map]
  rfl

/-! ## Parts -/

def ReplyStatus.shape : ReplyStatus → Shape
  | .ok => text "ok"
  | .error => text "error"

@[simp] theorem ReplyStatus.shape_canonical (s : ReplyStatus) : s.shape s.toJson.canonical := by
  cases s <;> rfl

@[simp] theorem ReplyStatus.agree_shape {s t : ReplyStatus} :
    Shape.Agree (some s.shape) (some t.shape) ↔ s = t := by
  cases s <;> cases t <;> simp [shape]

namespace ErrorContent

def shape (e : ErrorContent) : Shape :=
  record
    [ ("ename", some (text e.name)), ("evalue", some (text e.value)),
      ("traceback", some (lines e.traceback)) ]

theorem shape_canonical (e : ErrorContent) : e.shape (Value.object e.members).canonical := by
  refine record_canonical (by simp [members]) (by simp [members]) ?_
  simp [members, Record.get?_cons, Value.canonical]

theorem shape_unique {e e' : ErrorContent} {v : Value} (left : e.shape v) (right : e'.shape v) :
    e = e' := by
  have fields := agree_of_record left right rfl
  cases e
  cases e'
  simpa using fields

end ErrorContent

namespace ExecuteReply

/-- The fields of an error stand beside those of the execution, if there is one. -/
def shape (r : ExecuteReply) : Shape :=
  record
    [ ("status", some r.status.shape), ("execution_count", some (number r.count.toNat)),
      ("data", r.data.map texts), ("ename", r.error.map fun e => text e.name),
      ("evalue", r.error.map fun e => text e.value),
      ("traceback", r.error.map fun e => lines e.traceback) ]

theorem shape_canonical {r : ExecuteReply}
    (ascending : ∀ data ∈ r.data, data.Pairwise (·.1 < ·.1)) : r.shape r.toJson.canonical := by
  obtain ⟨status, count, data, error⟩ := r
  have bundle : ∀ d ∈ data, texts d (mimeToJson d).canonical := fun d given =>
    Shape.texts_canonical (List.pairwise_map.mpr ((ascending d given).imp ne_of_lt))
  cases data <;> cases error
  all_goals
    refine record_canonical (by simp [ErrorContent.members]) (by simp [ErrorContent.members]) ?_
    simp [ErrorContent.members, Record.get?_cons, Value.canonical, bundle]

theorem shape_unique {r r' : ExecuteReply} {v : Value}
    (ascending : ∀ data ∈ r.data, data.Pairwise (·.1 < ·.1))
    (ascending' : ∀ data ∈ r'.data, data.Pairwise (·.1 < ·.1))
    (left : r.shape v) (right : r'.shape v) : r = r' := by
  have fields := agree_of_record left right rfl
  obtain ⟨status, count, data, error⟩ := r
  obtain ⟨status', count', data', error'⟩ := r'
  simp only [List.forall₂_cons, ReplyStatus.agree_shape, Shape.agree_number,
    UInt32.toNat_inj] at fields
  obtain ⟨rfl, rfl, agree, name, value, traceback, -⟩ := fields
  have sameData : data = data' :=
    Shape.eq_of_agree_map texts (fun d here d' here' _ =>
      Shape.texts_unique (ascending d here) (ascending' d' here')) agree
  have sameError : error = error' := by
    cases error with
    | none =>
      cases error' with
      | none => rfl
      | some => cases name
    | some e =>
      cases error' with
      | none => cases name
      | some e' =>
        simp only [Option.map_some, Shape.agree_text, Shape.agree_lines] at name value traceback
        cases e
        cases e'
        cases name
        cases value
        cases traceback
        rfl
  rw [sameData, sameError]

end ExecuteReply

namespace CompleteReply

def shape (r : CompleteReply) : Shape :=
  record
    [ ("status", some r.status.shape), ("matches", some (lines r.words)),
      ("cursor_start", some (number r.start)), ("cursor_end", some (number r.stop)) ]

theorem shape_canonical (r : CompleteReply) : r.shape r.toJson.canonical := by
  refine record_canonical (by simp) (by simp) ?_
  simp [Record.get?_cons, Value.canonical]

theorem shape_unique {r r' : CompleteReply} {v : Value} (left : r.shape v) (right : r'.shape v) :
    r = r' := by
  have fields := agree_of_record left right rfl
  cases r
  cases r'
  simpa using fields

end CompleteReply

namespace InspectReply

def shape (r : InspectReply) : Shape :=
  record
    [("status", some r.status.shape), ("found", some (flag r.found)), ("data", some (texts r.data))]

theorem shape_canonical {r : InspectReply} (ascending : r.data.Pairwise (·.1 < ·.1)) :
    r.shape r.toJson.canonical := by
  have bundle : texts r.data (mimeToJson r.data).canonical :=
    Shape.texts_canonical (List.pairwise_map.mpr (ascending.imp ne_of_lt))
  refine record_canonical (by simp) (by simp) ?_
  simp [Record.get?_cons, Value.canonical, bundle]

theorem shape_unique {r r' : InspectReply} {v : Value} (ascending : r.data.Pairwise (·.1 < ·.1))
    (ascending' : r'.data.Pairwise (·.1 < ·.1)) (left : r.shape v) (right : r'.shape v) :
    r = r' := by
  have fields := agree_of_record left right rfl
  obtain ⟨status, found, data⟩ := r
  obtain ⟨status', found', data'⟩ := r'
  simp only [List.forall₂_cons, ReplyStatus.agree_shape, Shape.agree_flag] at fields
  obtain ⟨rfl, rfl, agree, -⟩ := fields
  have sameData : data = data' :=
    Shape.eq_of_agree texts (fun _ => Shape.texts_unique ascending ascending') agree
  rw [sameData]

end InspectReply

namespace IsCompleteReply

def shape (r : IsCompleteReply) : Shape :=
  record [("status", some (text r.status)), ("indent", some (text r.indent))]

theorem shape_canonical (r : IsCompleteReply) : r.shape r.toJson.canonical := by
  refine record_canonical (by simp) (by simp) ?_
  simp [Record.get?_cons, Value.canonical]

theorem shape_unique {r r' : IsCompleteReply} {v : Value} (left : r.shape v) (right : r'.shape v) :
    r = r' := by
  have fields := agree_of_record left right rfl
  cases r
  cases r'
  simpa using fields

end IsCompleteReply

namespace LanguageInfo

def shape (l : LanguageInfo) : Shape :=
  record
    [ ("name", some (text l.name)), ("version", some (text l.version)),
      ("mimetype", some (text l.mimetype)), ("file_extension", some (text l.fileExtension)),
      ("pygments_lexer", some (text l.lexer)), ("codemirror_mode", some (text l.editorMode)),
      ("nbconvert_exporter", some (text l.exporter)) ]

theorem shape_canonical (l : LanguageInfo) : l.shape l.toJson.canonical := by
  refine record_canonical (by simp) (by simp) ?_
  simp [Record.get?_cons, Value.canonical]

theorem shape_unique {l l' : LanguageInfo} {v : Value} (left : l.shape v) (right : l'.shape v) :
    l = l' := by
  have fields := agree_of_record left right rfl
  cases l
  cases l'
  simpa using fields

end LanguageInfo

namespace HelpLink

def shape (l : HelpLink) : Shape :=
  record [("text", some (.text l.text)), ("url", some (.text l.url))]

theorem shape_canonical (l : HelpLink) : l.shape l.toJson.canonical := by
  refine record_canonical (by simp) (by simp) ?_
  simp [Record.get?_cons, Value.canonical]

theorem shape_unique {l l' : HelpLink} {v : Value} (left : l.shape v) (right : l'.shape v) :
    l = l' := by
  have fields := agree_of_record left right rfl
  cases l
  cases l'
  simpa using fields

end HelpLink

namespace KernelInfoReply

def shape (r : KernelInfoReply) : Shape :=
  record
    [ ("status", some r.status.shape), ("protocol_version", some (text r.protocolVersion)),
      ("implementation", some (text r.implementation)),
      ("implementation_version", some (text r.implementationVersion)),
      ("language_info", some r.language.shape), ("banner", some (text r.banner)),
      ("debugger", some (flag r.debugger)),
      ("help_links", some (list (r.helpLinks.map HelpLink.shape))) ]

theorem shape_canonical (r : KernelInfoReply) : r.shape r.toJson.canonical := by
  have links : list (r.helpLinks.map HelpLink.shape)
      (Value.array (r.helpLinks.map HelpLink.toJson)).canonical :=
    Shape.list_canonical (by simp [List.forall₂_map_left_iff, HelpLink.shape_canonical])
  refine record_canonical (by simp) (by simp) ?_
  simpa [Record.get?_cons, Value.canonical, LanguageInfo.shape_canonical] using links

theorem shape_unique {r r' : KernelInfoReply} {v : Value} (left : r.shape v) (right : r'.shape v) :
    r = r' := by
  have fields := agree_of_record left right rfl
  cases r
  cases r'
  simp only [List.forall₂_cons, ReplyStatus.agree_shape, Shape.agree_text,
    Shape.agree_flag] at fields
  obtain ⟨rfl, rfl, rfl, rfl, languages, rfl, rfl, links, -⟩ := fields
  have sameLanguage := Shape.eq_of_agree _ (fun _ => LanguageInfo.shape_unique) languages
  have sameLinks := Shape.eq_of_agree (fun links : List HelpLink => list (links.map HelpLink.shape))
    (fun _ => Shape.list_unique _ HelpLink.shape_unique) links
  rw [sameLanguage, sameLinks]

end KernelInfoReply

namespace ShutdownReply

def shape (r : ShutdownReply) : Shape :=
  record [("status", some r.status.shape), ("restart", some (flag r.restart))]

theorem shape_canonical (r : ShutdownReply) : r.shape r.toJson.canonical := by
  refine record_canonical (by simp) (by simp) ?_
  simp [Record.get?_cons, Value.canonical]

theorem shape_unique {r r' : ShutdownReply} {v : Value} (left : r.shape v) (right : r'.shape v) :
    r = r' := by
  have fields := agree_of_record left right rfl
  cases r
  cases r'
  simpa using fields

end ShutdownReply

/-! ## Replies -/

namespace Reply

/-- The renderings in a reply. -/
def bundle? : Reply → Option MimeBundle
  | .execute r => r.data
  | .inspect r => some r.data
  | _ => none

/-- What the parts of a reply have from their types: offsets have 64 bits, and renderings are
    sorted by types, none of which is there twice. -/
structure WellFormed (b : Reply) : Prop where
  bounded : b.Bounded
  ascending : ∀ data ∈ b.bundle?, data.Pairwise (·.1 < ·.1)

def contentShape : Reply → Shape
  | .execute r => r.shape
  | .complete r => r.shape
  | .inspect r => r.shape
  | .isComplete r => r.shape
  | .kernelInfo r => r.shape
  | .shutdown r => r.shape
  | .error e => e.shape

/-- A reply is its name and its content, and nothing else. -/
def shape (b : Reply) : Shape :=
  record [("msg_type", some (text b.tag)), ("content", some b.contentShape)]

theorem contentShape_canonical {b : Reply} (wellFormed : b.WellFormed) :
    b.contentShape b.content.canonical := by
  cases b with
  | execute r => exact ExecuteReply.shape_canonical wellFormed.ascending
  | complete r => exact r.shape_canonical
  | inspect r => exact InspectReply.shape_canonical (wellFormed.ascending r.data rfl)
  | isComplete r => exact r.shape_canonical
  | kernelInfo r => exact r.shape_canonical
  | shutdown r => exact r.shape_canonical
  | error e => exact e.shape_canonical

theorem shape_canonical {b : Reply} (wellFormed : b.WellFormed) : b.shape b.toJson.canonical := by
  refine record_canonical (by simp) (by simp) ?_
  simp [Record.get?_cons, Value.canonical, contentShape_canonical wellFormed]

/-- Replies of one name with a common content are the same. -/
theorem contentShape_unique {b b' : Reply} {v : Value} (wellFormed : b.WellFormed)
    (wellFormed' : b'.WellFormed) (tags : b.tag = b'.tag) (left : b.contentShape v)
    (right : b'.contentShape v) : b = b' := by
  -- Replies of different kinds have different names.
  cases b <;> cases b' <;> simp [tag] at tags
  case execute.execute =>
    exact congrArg _
      (ExecuteReply.shape_unique wellFormed.ascending wellFormed'.ascending left right)
  case complete.complete => exact congrArg _ (CompleteReply.shape_unique left right)
  case inspect.inspect r r' =>
    exact congrArg _ (InspectReply.shape_unique (wellFormed.ascending r.data rfl)
      (wellFormed'.ascending r'.data rfl) left right)
  case isComplete.isComplete => exact congrArg _ (IsCompleteReply.shape_unique left right)
  case kernelInfo.kernelInfo => exact congrArg _ (KernelInfoReply.shape_unique left right)
  case shutdown.shutdown => exact congrArg _ (ShutdownReply.shape_unique left right)
  case error.error => exact congrArg _ (ErrorContent.shape_unique left right)

theorem shape_unique {b b' : Reply} {v : Value} (wellFormed : b.WellFormed)
    (wellFormed' : b'.WellFormed) (left : b.shape v) (right : b'.shape v) : b = b' := by
  have fields := agree_of_record left right rfl
  simp only [List.forall₂_cons, Shape.agree_text] at fields
  obtain ⟨tags, content, -⟩ := fields
  cases content with
  | given left right => exact contentShape_unique wellFormed wellFormed' tags left right

/-- No reply is lost on its way.  Its line has none of JSON's control characters, which are those
    below U+0020, so nothing in it ends the line.  It is read back as one object with the name of
    the reply and its content, which has every field of the reply with its value and no others;
    no other reply is laid out like this, and so none has the same line. -/
theorem encode_faithful {b : Reply} (wellFormed : b.WellFormed) :
    (∀ c ∈ b.encode.toList, 0x20 ≤ c.toNat) ∧
      (∃ document, Json.parse (bytesOf b.encode) = .ok document ∧ b.shape document ∧
        ∀ b' : Reply, b'.WellFormed → b'.shape document → b' = b) ∧
      ∀ b' : Reply, b'.WellFormed → b'.encode = b.encode → b' = b := by
  have parsed {b : Reply} (wellFormed : b.WellFormed) :
      Json.parse (bytesOf b.encode) = .ok b.toJson.canonical :=
    parse_compact (exact_toJson wellFormed.bounded)
  have fits := shape_canonical wellFormed
  refine ⟨?_, ⟨_, parsed wellFormed, fits, fun b' wellFormed' fits' => ?_⟩,
    fun b' wellFormed' same => ?_⟩
  · rw [encode, Value.compact, String.toList_ofList]
    exact b.toJson.printable
  · exact shape_unique wellFormed' wellFormed fits' fits
  · have documents := parsed wellFormed'
    rw [same, parsed wellFormed] at documents
    have fits' := shape_canonical wellFormed'
    rw [← Except.ok.inj documents] at fits'
    exact shape_unique wellFormed' wellFormed fits' fits

theorem encode_faithful_rendering :
    let data := [("text/html", "<b>\t</b>"), ("text/plain", "é\n")]
    let b : Reply := .execute (.success 2 (some data))
    b.encode =
        "\x7b\"msg_type\":\"execute_reply\",\"content\":\x7b\"status\":\"ok\"," ++
          "\"execution_count\":2,\"data\":\x7b\"text/html\":\"<b>\\t</b>\"," ++
          "\"text/plain\":\"é\\n\"\x7d\x7d\x7d" ∧
      (∀ c ∈ b.encode.toList, 0x20 ≤ c.toNat) ∧
      ∃ document, Json.parse (bytesOf b.encode) = .ok document ∧ b.shape document := by
  intro data b
  have wellFormed : b.WellFormed := by
    refine ⟨trivial, fun _ here => ?_⟩
    cases here
    decide
  obtain ⟨printable, ⟨document, parsed, fits, _⟩, _⟩ := encode_faithful wellFormed
  exact ⟨by decide +kernel, printable, document, parsed, fits⟩

end Reply

end NotebookKernel
