import NotebookKernel.Kernel.Basic
import NotebookKernel.Proofs.Cell.Span
import NotebookKernel.Proofs.Json.RoundTrip
import NotebookKernel.Proofs.Kernel.Descriptions

/-! # Replies as documents

A reply is read back from its text as the object that it is laid out as.  The only numbers in
it that are not bounded by their type are the offsets of a completion, and these stay within
the code.
-/

namespace NotebookKernel

open NotebookKernel.Json (Value Members)

/-! ## The parts of a reply -/

theorem exact_status (depth : Nat) (s : ReplyStatus) : s.toJson.Exact depth := by
  cases s <;> exact .string _

theorem exact_texts (depth : Nat) (texts : List String) : (textsToJson texts).Exact (depth + 1) := by
  refine .array fun v member => ?_
  obtain ⟨text, _, rfl⟩ := List.mem_map.mp member
  exact .string text

theorem exact_mime (depth : Nat) (data : MimeBundle) : (mimeToJson data).Exact (depth + 1) := by
  refine .object fun m member => ?_
  obtain ⟨p, _, rfl⟩ := List.mem_map.mp member
  exact .string p.2

theorem exact_error (depth : Nat) (e : ErrorContent) : ∀ m ∈ e.members, m.2.Exact (depth + 1) := by
  simp only [ErrorContent.members, List.forall_mem_cons]
  exact ⟨.string _, .string _, exact_texts _ _, by simp⟩

theorem exact_execute (depth : Nat) (r : ExecuteReply) : r.toJson.Exact (depth + 2) := by
  have small : r.count.toNat < 4294967296 := r.count.toNat_lt
  refine .object fun m member => ?_
  simp only [List.mem_append, List.mem_cons, List.not_mem_nil, or_false] at member
  obtain ((rfl | rfl) | member) | member := member
  · exact exact_status _ _
  · exact .integer (by simp) (by simp; omega)
  · cases data : r.data with
    | none => simp [data] at member
    | some bundle =>
      simp only [data, Option.map_some, Option.toList_some, List.mem_singleton] at member
      subst member
      exact exact_mime _ _
  · cases error : r.error with
    | none => simp [error] at member
    | some e =>
      simp only [error, Option.map_some, Option.getD_some] at member
      exact exact_error _ e m member

theorem exact_complete (depth : Nat) {r : CompleteReply} (start : r.start < Nat.pow 2 64)
    (stop : r.stop < Nat.pow 2 64) : r.toJson.Exact (depth + 2) := by
  refine .object ?_
  simp only [List.forall_mem_cons]
  exact ⟨exact_status _ _, exact_texts _ _, .integer (by simp) (by omega),
    .integer (by simp) (by omega), by simp⟩

theorem exact_inspect (depth : Nat) (r : InspectReply) : r.toJson.Exact (depth + 2) := by
  refine .object ?_
  simp only [List.forall_mem_cons]
  exact ⟨exact_status _ _, .bool _, exact_mime _ _, by simp⟩

theorem exact_isComplete (depth : Nat) (r : IsCompleteReply) : r.toJson.Exact (depth + 2) := by
  refine .object ?_
  simp only [List.forall_mem_cons]
  exact ⟨.string _, .string _, by simp⟩

theorem exact_kernelInfo (depth : Nat) (r : KernelInfoReply) : r.toJson.Exact (depth + 3) := by
  have language : r.language.toJson.Exact (depth + 2) := by
    refine .object ?_
    simp only [List.forall_mem_cons]
    exact ⟨.string _, .string _, .string _, .string _, .string _, .string _, .string _, by simp⟩
  have links : (Value.array (r.helpLinks.map HelpLink.toJson)).Exact (depth + 2) := by
    refine .array fun v member => ?_
    obtain ⟨link, _, rfl⟩ := List.mem_map.mp member
    refine .object ?_
    simp only [List.forall_mem_cons]
    exact ⟨.string _, .string _, by simp⟩
  refine .object ?_
  simp only [List.forall_mem_cons]
  exact ⟨exact_status _ _, .string _, .string _, .string _, language, .string _, .bool _, links,
    by simp⟩

theorem exact_shutdown (depth : Nat) (r : ShutdownReply) : r.toJson.Exact (depth + 1) := by
  refine .object ?_
  simp only [List.forall_mem_cons]
  exact ⟨exact_status _ _, .bool _, by simp⟩

namespace Reply

/-- The offsets of a completion fit into 64 bits. -/
def Bounded : Reply → Prop
  | .complete r => r.start < Nat.pow 2 64 ∧ r.stop < Nat.pow 2 64
  | _ => True

theorem exact_toJson {b : Reply} (bounded : b.Bounded) : b.toJson.Exact Json.greatestDepth := by
  have content : b.content.Exact 126 := by
    cases b with
    | execute r => exact exact_execute _ r
    | complete r => exact exact_complete _ bounded.1 bounded.2
    | inspect r => exact exact_inspect _ r
    | isComplete r => exact exact_isComplete _ r
    | kernelInfo r => exact exact_kernelInfo _ r
    | shutdown r => exact exact_shutdown _ r
    | error e => exact .object (exact_error _ e)
  refine .object ?_
  simp only [List.forall_mem_cons]
  exact ⟨.string _, content, by simp⟩

/-- The line of a reply is read back as the object that the reply is laid out as. -/
theorem readDocument_encode {b : Reply} (bounded : b.Bounded) :
    Json.readDocument (Text.bytesOf b.encode) =
      .ok (.object [("msg_type", .string b.tag), ("content", b.content)]) := by
  rw [Text.bytesOf, encode, Value.compact, String.toList_ofList,
    Json.readDocument_render (exact_toJson bounded)]
  rfl

end Reply

/-! ## The replies of a kernel -/

/-- What the names of a request and of its reply begin with. -/
def Request.Kind.stem : Request.Kind → String
  | .execute => "execute"
  | .complete => "complete"
  | .inspect => "inspect"
  | .isComplete => "is_complete"
  | .kernelInfo => "kernel_info"
  | .shutdown => "shutdown"

theorem Request.Kind.tag_eq (kind : Request.Kind) : kind.tag = kind.stem ++ "_request" := by
  cases kind <;> decide

namespace Kernel

variable {ε : Type}

theorem bounded_handle (E : Engine ε) (k : Kernel ε) {r : Request}
    (fits : ∀ code cursor, r = .complete code cursor → code.length < Nat.pow 2 64) :
    (k.handle E r).1.Bounded := by
  cases r with
  | complete code cursor =>
    have length := fits code cursor rfl
    obtain ⟨start, stop⟩ := Cell.Span.at_bounds code.toList cursor
    rw [String.length_toList] at start stop
    exact ⟨Nat.lt_of_le_of_lt start length, Nat.lt_of_le_of_lt stop length⟩
  | execute | inspect | isComplete | kernelInfo | shutdown => trivial

/-- A reply is of the type of its request. -/
theorem tag_handle (E : Engine ε) (k : Kernel ε) (r : Request) :
    (k.handle E r).1.tag = r.kind.stem ++ "_reply" := by
  have literal (kind : Request.Kind) : kind.stem ++ "_reply" = match kind with
      | .execute => "execute_reply"
      | .complete => "complete_reply"
      | .inspect => "inspect_reply"
      | .isComplete => "is_complete_reply"
      | .kernelInfo => "kernel_info_reply"
      | .shutdown => "shutdown_reply" := by
    cases kind <;> decide
  rw [literal]
  cases r <;> rfl

end Kernel

end NotebookKernel
