import NotebookKernel.Engine.Canned
import NotebookKernel.Proofs.Engine.Views
import NotebookKernel.Proofs.Kernel.Executions

/-! # What an execution publishes

The output of a success is empty only if the document has no message with a text and no open
goal, so the kernel, which looks at the output alone before it publishes nothing, loses nothing.
The goals are read from the document a second time and are the same again.
-/

namespace NotebookKernel

open NotebookKernel.Json
open NotebookKernel.Text (bytesOf)

variable {ε : Type}

/-! ## Summaries -/

theorem join_map_eq_empty {f : String → String} (solid : ∀ t, f t ≠ "") {ts : List String} :
    String.join (ts.map f) = "" ↔ ts = [] := by
  cases ts with
  | nil => exact ⟨fun _ => rfl, fun _ => rfl⟩
  | cons t ts => simp [String.join_cons, String.append_eq_empty_iff, solid t]

theorem summary_eq_empty {messages : List Diagnostic} {holes : List Hole} :
    summary messages holes = "" ↔
      (∀ m ∈ messages, m.text = none) ∧ ∀ h ∈ holes, h.goal = none := by
  rw [summary, String.append_eq_empty_iff, join_map_eq_empty (fun _ => by simp),
    join_map_eq_empty (fun _ => by simp), List.filterMap_eq_nil_iff, List.filterMap_eq_nil_iff]

namespace Response

/-- What is decoded to a success is an object with the members of one, and all that the success
    holds is read from them. -/
theorem success_of_decode {document output : String} {raw : Value} {env : Option Nat}
    (decoded : decode document = .ok (.success output raw env)) :
    ∃ ms o, Json.parse (bytesOf document) = .ok (.object ms) ∧ Outcome.Written ms o ∧
      output = summary o.messages o.holes ∧
      (Response.success output raw env).holes = o.holes := by
  by_cases object : ∃ ms, Json.parse (bytesOf document) = .ok (.object ms)
  · obtain ⟨ms, parsed⟩ := object
    cases noError : Members.get? ms "error" with
    | some e =>
      rw [decode_of_error parsed noError] at decoded
      cases decoded
    | none =>
      by_cases written : ∃ o, Outcome.Written ms o
      · obtain ⟨o, written⟩ := written
        rw [decode_of_success parsed noError written] at decoded
        cases decoded
        exact ⟨ms, o, parsed, written, rfl, (views_eq rfl (distinct_of_parse parsed) written).2⟩
      · obtain ⟨reason, malformed⟩ := decode_of_malformed parsed noError written
        rw [malformed] at decoded
        cases decoded
  · obtain ⟨reason, refused⟩ := decode_of_no_object (not_exists.mp object)
    rw [refused] at decoded
    cases decoded

end Response

namespace Kernel

/-! ## Published texts -/

theorem published_of_goals (output : String) {r : Response} {goals : List String}
    (goalTexts : r.goalTexts = goals) :
    (goals = [] → published output r = output) ∧
      (goals ≠ [] → published output r =
        output ++ "\nProof goals:\n" ++ String.join (goals.map (· ++ "\n"))) := by
  rw [published, goalTexts]
  cases goals with
  | nil => exact ⟨fun _ => rfl, fun some_ => absurd rfl some_⟩
  | cons g gs => exact ⟨nofun, fun _ => rfl⟩

theorem text?_executeReply (count : UInt32) (output : String) (raw : Value) (env : Option Nat) :
    (executeReply count false (.success output raw env)).text? =
      if output = "" then none else some (published output (.success output raw env)) := by
  simp only [executeReply, Bool.false_or, String.isEmpty_iff]
  split <;> rfl

/-- The text of an execution that succeeds shows every message with a text and every open goal, in
    the order of the document.  There is no text just if there is nothing to show; otherwise it is
    the output, and the goals again under a heading if there are any.  The output has the same texts
    and the same goals, and so has the response. -/
theorem nothing_lost_in_text (E : Engine ε) (k : Kernel ε) {e : ε}
    (slot : k.session.handle.slot = some e) (code : String) (count : UInt32)
    {answer output : String} {raw : Value} {env : Option Nat}
    (answered : (E.send e (Command.document ⟨code, k.session.env⟩)).1 = .ok answer)
    (decoded : Response.decode (String.ofList (Text.trim answer.toList)) =
      .ok (.success output raw env)) :
    let text? := (k.execute E code count false).1.text?
    ∃ ms o, Json.parse (bytesOf (String.ofList (Text.trim answer.toList))) = .ok (.object ms) ∧
      Outcome.Written ms o ∧
      let texts := o.messages.filterMap (·.text)
      let goals := o.holes.filterMap (·.goal)
      (text? = none ↔ (∀ m ∈ o.messages, m.text = none) ∧ ∀ h ∈ o.holes, h.goal = none) ∧
      (∀ text, text? = some text →
        (goals = [] → text = output) ∧
        (goals ≠ [] → text =
          output ++ "\nProof goals:\n" ++ String.join (goals.map (· ++ "\n")))) ∧
      output = String.join (texts.map (· ++ "\n")) ++
        String.join (goals.map fun g => "Goal: " ++ g ++ "\n") ∧
      (Response.success output raw env).goals.map (·.raw) = goals := by
  intro text?
  obtain ⟨ms, o, parsed, written, summarised, holes⟩ := Response.success_of_decode decoded
  have goalTexts : (Response.success output raw env).goalTexts = o.holes.filterMap (·.goal) := by
    rw [Response.goalTexts, holes]
  have reply : text? = (executeReply count false (.success output raw env)).text? := by
    have read := Session.readAnswer_eq_ok.mpr ⟨answer, answered, decoded⟩
    simp only [text?, execute_fst, execute_of_slot slot, read]
    rfl
  rw [text?_executeReply] at reply
  obtain ⟨bare, listed⟩ := published_of_goals output goalTexts
  refine ⟨ms, o, parsed, written, ?_, ?_, summarised, ?_⟩
  · rw [reply, ← summary_eq_empty, ← summarised]
    simp
  · intro text published
    rw [reply] at published
    split at published
    · cases published
    · cases published
      exact ⟨bare, listed⟩
  · rw [Response.goals_texts, goalTexts]

/-- A goal is shown although no message has a text. -/
theorem nothing_lost_in_text_without_messages :
    let document := "\x7b\"messages\":[\x7b\"data\":null\x7d]," ++
      "\"sorries\":[\x7b\x7d,\x7b\"goal\":\"g\"\x7d]\x7d"
    let e := Canned.fresh [("x", .document document)]
    let k : Kernel Canned := .new (.withEngine e)
    k.session.handle.slot = some e ∧
    (Canned.engine.send e (Command.document ⟨"x", k.session.env⟩)).1 = .ok document ∧
    ∃ output raw env,
      Response.decode (String.ofList (Text.trim document.toList)) =
        .ok (.success output raw env) ∧
      (k.execute Canned.engine "x" 1 false).1.text? =
        some (output ++ "\nProof goals:\n" ++ "g\n") := by
  intro document e k
  have answered : (Canned.engine.send e (Command.document ⟨"x", k.session.env⟩)).1 =
      .ok document := toOption_eq_some.mp (by decide +kernel)
  have seen : (Response.decode (String.ofList (Text.trim document.toList))).toOption.map
      (fun r => (r.isSuccess, r.goals.map (·.raw))) = some (true, ["g"]) := by
    decide +kernel
  obtain ⟨r, read, facts⟩ := Option.map_eq_some_iff.mp seen
  have decoded := toOption_eq_some.mp read
  obtain ⟨succeeds, raws⟩ : r.isSuccess = true ∧ r.goals.map (·.raw) = ["g"] := by
    simpa using facts
  cases r with
  | error message raw => cases succeeds
  | success output raw env =>
    refine ⟨rfl, answered, output, raw, env, decoded, ?_⟩
    obtain ⟨ms, o, -, -, silent, texts, -, goals⟩ :=
      nothing_lost_in_text Canned.engine k rfl "x" 1 answered decoded
    rw [raws] at goals
    cases shown : (k.execute Canned.engine "x" 1 false).1.text? with
    | none =>
      have noGoal := List.filterMap_eq_nil_iff.mpr (silent.mp shown).2
      rw [noGoal] at goals
      cases goals
    | some text =>
      have listed := (texts text shown).2
      rw [← goals] at listed
      rw [listed (List.cons_ne_nil _ _)]
      rfl

end Kernel

end NotebookKernel
