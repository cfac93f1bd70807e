import NotebookKernel.Proofs.Engine.Forms

/-! # The views of a response

A document is read twice: once by the decoder, which makes the output of a success, and again
whenever its messages or its open places are asked for.  The second reading falls back to the
empty list, so what has to be shown is that it never does so behind the decoder's back.
-/

namespace NotebookKernel

open NotebookKernel.Json
open NotebookKernel.Text (bytesOf)

/-! ## Goals -/

theorem Goal.parse_id (id : Nat) (text : String) : (Goal.parse id text).id = id := by
  unfold Goal.parse
  split
  split <;> rfl

theorem Goal.parse_raw (id : Nat) (text : String) : (Goal.parse id text).raw = text := by
  unfold Goal.parse
  split
  split <;> rfl

namespace Response

theorem goals_ids (r : Response) : r.goals.map (·.id) = List.range r.goalTexts.length := by
  rw [goals, List.map_map, List.range_eq_range', ← List.zipIdx_map_snd 0 r.goalTexts]
  exact List.map_congr_left fun _ _ => Goal.parse_id _ _

theorem goals_texts (r : Response) : r.goals.map (·.raw) = r.goalTexts := by
  rw [goals, List.map_map]
  calc _ = r.goalTexts.zipIdx.map Prod.fst := List.map_congr_left fun _ _ => Goal.parse_raw _ _
    _ = r.goalTexts := List.zipIdx_map_fst 0 r.goalTexts

/-! ## Views -/

theorem listMember_eq {α : Type} {read : Value → Except ShapeError α} {Form : Value → α → Prop}
    (same : ∀ v : Value, v.Distinct → ∀ a, read v = .ok a ↔ Form v a) {r : Response} {ms : Members}
    (raw : r.raw = .object ms) {key : String} {as : List α}
    (distinct : ∀ v, Members.get? ms key = some v → v.Distinct)
    (listed : Listed Form (Members.get? ms key) as) :
    r.listMember (Value.asList read) key = as := by
  rw [listMember, raw, Value.get?]
  cases here : Members.get? ms key with
  | none =>
    rw [here] at listed
    cases listed
    rfl
  | some v =>
    rw [here] at listed
    rw [Option.map_some, (asList_eq_ok_iff same (distinct v here)).mpr listed]

/-- What is read again is what has been decoded. -/
theorem views_eq {r : Response} {ms : Members} (raw : r.raw = .object ms)
    (distinct : (Value.object ms).Distinct) {o : Outcome} (written : Outcome.Written ms o) :
    r.messages = o.messages ∧ r.holes = o.holes := by
  cases distinct with
  | object keys members =>
    have inside (name : String) (w : Value) (here : Members.get? ms name = some w) : w.Distinct :=
      members _ (Record.mem_of_get?_eq_some here)
    exact ⟨listMember_eq (fun _ distinct _ => Diagnostic.decode_eq_ok distinct) raw (inside _)
        written.messages,
      listMember_eq (fun _ distinct _ => Hole.decode_eq_ok distinct) raw (inside _) written.holes⟩

/-! ## Decoding -/

/-- The text of an error: a string as it is, anything else as it is written. -/
def IsErrorText (v : Value) (message : String) : Prop :=
  v = .string message ∨ (∀ text, v ≠ .string text) ∧ message = v.compact

theorem errorText_iff {v : Value} {message : String} :
    errorText v = message ↔ IsErrorText v message := by
  cases v <;> simp [errorText, IsErrorText, eq_comm]

theorem decode_eq_ok {document : String} {r : Response} :
    decode document = .ok r ↔
      ∃ ms, Json.parse (bytesOf document) = .ok (.object ms) ∧ ofMembers ms = .ok r := by
  constructor
  · intro decoded
    simp only [decode] at decoded
    split at decoded
    · cases decoded
    next ms parsed =>
      split at decoded
      next made =>
        cases decoded
        exact ⟨ms, parsed, made⟩
      next => cases decoded
    next => cases decoded
  · rintro ⟨ms, parsed, made⟩
    simp only [decode, parsed, made]

section Object

variable {document : String} {ms : Members}

theorem decode_of_error (parsed : Json.parse (bytesOf document) = .ok (.object ms)) {e : Value}
    (here : Members.get? ms "error" = some e) :
    decode document = .ok (.error (errorText e) (.object ms)) := by
  simp [decode, parsed, ofMembers, here]

theorem decode_of_success (parsed : Json.parse (bytesOf document) = .ok (.object ms))
    (noError : Members.get? ms "error" = none) {o : Outcome} (written : Outcome.Written ms o) :
    decode document = .ok (.success (summary o.messages o.holes) (.object ms) o.env) := by
  have decoded := (Outcome.ofMembers_eq_ok (distinct_of_parse parsed)).mpr written
  simp [decode, parsed, ofMembers, noError, decoded, Except.map]

theorem decode_of_malformed (parsed : Json.parse (bytesOf document) = .ok (.object ms))
    (noError : Members.get? ms "error" = none) (malformed : ¬ ∃ o, Outcome.Written ms o) :
    ∃ reason, decode document = .error (.badDocument reason) := by
  have failed : ∃ e, Outcome.record.ofMembers ms = .error e := by
    cases decoded : Outcome.record.ofMembers ms with
    | error e => exact ⟨e, rfl⟩
    | ok o => exact absurd ⟨o, (Outcome.ofMembers_eq_ok (distinct_of_parse parsed)).mp decoded⟩ malformed
  obtain ⟨e, failed⟩ := failed
  simp [decode, parsed, ofMembers, noError, failed, Except.map]

end Object

theorem decode_of_no_object {document : String}
    (noObject : ∀ ms, Json.parse (bytesOf document) ≠ .ok (.object ms)) :
    ∃ reason, decode document = .error (.badDocument reason) := by
  rw [decode]
  split
  next => exact ⟨_, rfl⟩
  next ms parsed => exact absurd parsed (noObject ms)
  next => exact ⟨_, rfl⟩

/-- What a document is decoded to, and that the views agree with it.  A text that is not one object
is no response.  An object is an error just if it has a member that says so, whatever the others
are, and otherwise a success just if its members have the form of one.  What is read from a success
again is what it has been decoded from. -/
theorem decode_agrees (document : String) :
    ((∀ ms, Json.parse (bytesOf document) ≠ .ok (.object ms)) →
      ∃ reason, decode document = .error (.badDocument reason)) ∧
    ∀ ms, Json.parse (bytesOf document) = .ok (.object ms) →
      (∀ message raw, decode document = .ok (.error message raw) ↔
        raw = .object ms ∧ ∃ e, Members.get? ms "error" = some e ∧ IsErrorText e message) ∧
      (Members.get? ms "error" = none →
        ((∃ output raw env, decode document = .ok (.success output raw env)) ↔
          ∃ o, Outcome.Written ms o) ∧
        ((¬ ∃ o, Outcome.Written ms o) →
          ∃ reason, decode document = .error (.badDocument reason))) ∧
      ∀ output raw env, decode document = .ok (.success output raw env) →
        let r : Response := .success output raw env
        let texts := r.messages.filterMap (·.text)
        let goals := r.holes.filterMap (·.goal)
        raw = .object ms ∧
        (∃ o, Outcome.record.ofMembers ms = .ok o ∧ Outcome.Written ms o ∧
          env = o.env ∧ r.messages = o.messages ∧ r.holes = o.holes) ∧
        output = String.join (texts.map (· ++ "\n")) ++
          String.join (goals.map fun g => "Goal: " ++ g ++ "\n") ∧
        r.goals.map (·.id) = List.range goals.length ∧ r.goals.map (·.raw) = goals := by
  refine ⟨decode_of_no_object, fun ms parsed => ?_⟩
  have distinct := distinct_of_parse parsed
  -- What the member says decides; without it the form of the others does.
  cases noError : Members.get? ms "error" with
  | some e =>
    have decoded := decode_of_error parsed noError
    refine ⟨fun message raw => ?_, nofun, fun output raw env success => ?_⟩
    · rw [decoded]
      simp only [← errorText_iff, Except.ok.injEq, error.injEq, Option.some.injEq, exists_eq_left']
      rw [and_comm, eq_comm (a := raw)]
    · rw [decoded] at success
      cases success
  | none =>
    by_cases written : ∃ o, Outcome.Written ms o
    · obtain ⟨o, written⟩ := written
      have decoded := decode_of_success parsed noError written
      refine ⟨fun message raw => ?_, fun _ => ⟨?_, fun malformed => absurd ⟨o, written⟩ malformed⟩, ?_⟩
      · rw [decoded]
        simp
      · exact ⟨fun _ => ⟨o, written⟩, fun _ => ⟨_, _, _, decoded⟩⟩
      · intro output raw env success r texts goals
        rw [decoded] at success
        cases success
        obtain ⟨messages, holes⟩ := views_eq (r := r) rfl distinct written
        refine ⟨rfl, ⟨o, (Outcome.ofMembers_eq_ok distinct).mpr written, written, rfl, messages, holes⟩,
          ?_, goals_ids r, goals_texts r⟩
        simp only [texts, goals, messages, holes, summary]
    · obtain ⟨reason, decoded⟩ := decode_of_malformed parsed noError written
      refine ⟨fun message raw => ?_, fun _ => ⟨?_, fun _ => ⟨reason, decoded⟩⟩, ?_⟩
      · rw [decoded]
        simp
      · rw [decoded]
        simp [written]
      · intro output raw env success
        rw [decoded] at success
        cases success

end Response

end NotebookKernel
