import NotebookKernel.Engine.Response
import NotebookKernel.Proofs.Json.Layouts

/-! # The form of a success

Which values are positions, messages and places left open, said without the decoder.  A member
that is optional may be missing or null; a severity may only be missing.  The decoder takes
exactly the values of these forms, provided that no object repeats a key.
-/

namespace NotebookKernel

open NotebookKernel.Json
open NotebookKernel.Json.RecordField (fillAll)
open NotebookKernel.Json.Record (Laid)

/-! ## Forms -/

/-- A member that may be missing or null, and has some form otherwise. -/
inductive Optionally {α : Type} (Form : Value → α → Prop) : Option Value → Option α → Prop
  | missing : Optionally Form none none
  | null : Optionally Form (some .null) none
  | given {v : Value} {a : α} (notNull : v ≠ .null) (form : Form v a) :
    Optionally Form (some v) (some a)

/-- A member that may be missing, and otherwise is an array of items of some form. -/
inductive Listed {α : Type} (Form : Value → α → Prop) : Option Value → List α → Prop
  | missing : Listed Form none []
  | given {vs : List Value} {as : List α} (forms : List.Forall₂ Form vs as) :
    Listed Form (some (.array vs)) as

/-- An unsigned integer of 64 bits. -/
def IsUnsigned (v : Value) (n : Nat) : Prop :=
  n ≤ greatestUnsigned ∧ v = .integer n

/-- A text. -/
def IsText (v : Value) (text : String) : Prop :=
  v = .string text

/-- A severity that may be missing, but not null. -/
inductive Severity.Written : Option Value → Severity → Prop
  | missing : Written none .info
  | given {v : Value} {name : String} (isName : v.IsName name) : Written (some v) (.ofName name)

/-- A position with its line and its column. -/
inductive Position.Written : Value → Position → Prop
  | laid {v : Value} {ms : Members} {p : Position} (laid : Laid ["line", "column"] v ms)
    (line : HasNumber ms "line" greatestUnsigned p.line)
    (column : HasNumber ms "column" greatestUnsigned p.column) : Written v p

/-- A message. -/
inductive Diagnostic.Written : Value → Diagnostic → Prop
  | laid {v : Value} {ms : Members} {d : Diagnostic}
    (laid : Laid ["severity", "data", "pos", "endPos"] v ms)
    (severity : Severity.Written (Members.get? ms "severity") d.severity)
    (text : Optionally IsText (Members.get? ms "data") d.text)
    (start : Optionally Position.Written (Members.get? ms "pos") d.start)
    (stop : Optionally Position.Written (Members.get? ms "endPos") d.stop) : Written v d

/-- A place left open. -/
inductive Hole.Written : Value → Hole → Prop
  | laid {v : Value} {ms : Members} {h : Hole} (laid : Laid ["goal", "pos", "endPos"] v ms)
    (goal : Optionally IsText (Members.get? ms "goal") h.goal)
    (start : Optionally Position.Written (Members.get? ms "pos") h.start)
    (stop : Optionally Position.Written (Members.get? ms "endPos") h.stop) : Written v h

/-- The members of a success. -/
structure Outcome.Written (ms : Members) (o : Outcome) : Prop where
  env : Optionally IsUnsigned (Members.get? ms "env") o.env
  messages : Listed Diagnostic.Written (Members.get? ms "messages") o.messages
  holes : Listed Hole.Written (Members.get? ms "sorries") o.holes

/-! ## Members -/

section Members

variable {α σ : Type} {Form Form' : Value → α → Prop} {member : Option Value}

theorem Optionally.congr {x : Option α} (same : ∀ v, member = some v → ∀ a, Form v a ↔ Form' v a) :
    Optionally Form member x ↔ Optionally Form' member x := by
  constructor
  · rintro (_ | _ | ⟨notNull, form⟩)
    · exact .missing
    · exact .null
    · exact .given notNull ((same _ rfl _).mp form)
  · rintro (_ | _ | ⟨notNull, form⟩)
    · exact .missing
    · exact .null
    · exact .given notNull ((same _ rfl _).mpr form)

/-- An optional field takes a member that is optional. -/
theorem fillAll_optional {find : String → Option Value} {f : RecordField σ}
    {fs : List (RecordField σ)} {read : Value → Except ShapeError α} {set : Option α → σ → σ}
    (store : ∀ v s, f.store v s = (v.asOptional read).map (set · s)) {s t : σ}
    (missing : set none s = s) :
    fillAll find (f :: fs) s = some t ↔
      ∃ x, Optionally (fun v a => read v = .ok a) (find f.name) x ∧
        fillAll find fs (set x s) = some t := by
  rw [RecordField.fillAll_map store]
  constructor
  · rintro (⟨absent, filled⟩ | ⟨x, ⟨v, here, taken⟩, filled⟩)
    · exact ⟨none, absent ▸ .missing, by rwa [missing]⟩
    · refine ⟨x, ?_, filled⟩
      rw [here]
      obtain ⟨rfl, rfl⟩ | ⟨notNull, a, form, rfl⟩ := asOptional_eq_ok.mp taken
      · exact .null
      · exact .given notNull form
  · rintro ⟨x, optional, filled⟩
    generalize find f.name = member at optional
    cases optional with
    | missing => exact .inl ⟨rfl, missing ▸ filled⟩
    | null => exact .inr ⟨none, ⟨_, rfl, rfl⟩, filled⟩
    | given notNull form =>
      exact .inr ⟨_, ⟨_, rfl, asOptional_eq_ok.mpr (.inr ⟨notNull, _, form, rfl⟩)⟩, filled⟩

end Members

/-! ## The decoder and the forms -/

theorem Severity.ofJson_eq_ok {v : Value} {s : Severity} :
    Severity.ofJson v = .ok s ↔ ∃ name, v.IsName name ∧ .ofName name = s := by
  unfold Severity.ofJson Value.IsName
  split
  next name => simp
  next name => simp
  next name w notNull =>
    simp only [Value.refuse, reduceCtorEq, Value.object.injEq, List.cons.injEq, Prod.mk.injEq, and_true,
      false_or, false_iff, not_exists, not_and]
    rintro _ ⟨_, null⟩
    exact absurd null notNull
  next ms notWrapped _ =>
    simp only [reduceCtorEq, Value.object.injEq, false_or, false_iff, not_exists, not_and]
    rintro name rfl
    exact absurd rfl (notWrapped name)
  next notString _ _ notObject =>
    simp only [Value.refuse, reduceCtorEq, false_iff, not_exists, not_and]
    rintro name (rfl | rfl)
    · exact absurd rfl (notString name)
    · exact absurd rfl (notObject _)

namespace Position

theorem pairwise_apart : Position.record.fields.Pairwise RecordField.Apart := by
  simp only [Position.record, List.pairwise_cons, List.forall_mem_cons, List.not_mem_nil]
  refine ⟨⟨?_, nofun⟩, nofun, .nil⟩
  exact .of_map (by decide) (fun _ _ => rfl) (fun _ _ => rfl) (fun _ _ _ => rfl)

theorem fillAll_unsigned {find : String → Option Value} {σ : Type} {name : String}
    {set : Nat → σ → σ} {fs : List (RecordField σ)} {s t : σ} :
    fillAll find (unsignedField name set :: fs) s = some t ↔
      find name = none ∧ fillAll find fs s = some t ∨
        ∃ n : Nat, (n ≤ greatestUnsigned ∧ find name = some (.integer n)) ∧
          fillAll find fs (set n s) = some t := by
  rw [RecordField.fillAll_map fun _ _ => rfl]
  simp [Value.asUnsigned64, asUnsigned_eq_ok, unsignedField, and_comm]

theorem decode_eq_ok {v : Value} (distinct : v.Distinct) {p : Position} :
    Position.record.decode v = .ok p ↔ Position.Written v p := by
  rw [Record.decode_eq_ok pairwise_apart (by simp [Position.record, unsignedField]) distinct]
  constructor
  · rintro ⟨ms, laid, s, filled, finished⟩
    obtain ⟨_, filled⟩ | ⟨line, hasLine, filled⟩ := fillAll_unsigned.mp filled
    · obtain ⟨_, filled⟩ | ⟨column, _, filled⟩ := fillAll_unsigned.mp filled
      · cases filled
        cases finished
      · cases filled
        cases finished
    · obtain ⟨_, filled⟩ | ⟨column, hasColumn, filled⟩ := fillAll_unsigned.mp filled
      · cases filled
        cases finished
      · cases filled
        cases finished
        exact .laid laid hasLine hasColumn
  · rintro (⟨laid, line, column⟩)
    exact ⟨_, laid, _, fillAll_unsigned.mpr (.inr ⟨_, line, fillAll_unsigned.mpr
      (.inr ⟨_, column, rfl⟩)⟩), rfl⟩

end Position

section Fields

variable {find : String → Option Value} {σ : Type} {name : String} {fs : List (RecordField σ)}
  {s t : σ}

theorem fillAll_text {defaulted : Bool} {set : Option String → σ → σ} (missing : set none s = s) :
    fillAll find (optionalTextField name defaulted set :: fs) s = some t ↔
      ∃ x, Optionally IsText (find name) x ∧ fillAll find fs (set x s) = some t := by
  rw [fillAll_optional (fun _ _ => rfl) missing]
  exact exists_congr fun _ => and_congr_left fun _ => Optionally.congr fun _ _ _ => asString_eq_ok

theorem fillAll_position {set : Option Position → σ → σ} (missing : set none s = s)
    (distinct : ∀ v, find name = some v → v.Distinct) :
    fillAll find (positionField name set :: fs) s = some t ↔
      ∃ x, Optionally Position.Written (find name) x ∧ fillAll find fs (set x s) = some t := by
  rw [fillAll_optional (fun _ _ => rfl) missing]
  exact exists_congr fun _ => and_congr_left fun _ =>
    Optionally.congr fun v here _ => Position.decode_eq_ok (distinct v here)

end Fields

namespace Diagnostic

theorem pairwise_apart : Diagnostic.record.fields.Pairwise RecordField.Apart := by
  simp only [Diagnostic.record, List.pairwise_cons, List.forall_mem_cons, List.not_mem_nil]
  refine ⟨⟨?_, ?_, ?_, nofun⟩, ⟨?_, ?_, nofun⟩, ⟨?_, nofun⟩, nofun, .nil⟩ <;>
    exact .of_map (by decide) (fun _ _ => rfl) (fun _ _ => rfl) (fun _ _ _ => rfl)

theorem fillAll_severity {find : String → Option Value} {f : RecordField Diagnostic}
    {fs : List (RecordField Diagnostic)} {d t : Diagnostic}
    (store : ∀ v d, f.store v d = (Severity.ofJson v).map fun x => { d with severity := x })
    (missing : d.severity = .info) :
    fillAll find (f :: fs) d = some t ↔
      ∃ x, Severity.Written (find f.name) x ∧ fillAll find fs { d with severity := x } = some t := by
  have unchanged : { d with severity := .info } = d := by
    cases d
    cases missing
    rfl
  rw [RecordField.fillAll_map store]
  constructor
  · rintro (⟨absent, filled⟩ | ⟨x, ⟨v, here, taken⟩, filled⟩)
    · exact ⟨.info, absent ▸ .missing, by rwa [unchanged]⟩
    · obtain ⟨name, isName, rfl⟩ := Severity.ofJson_eq_ok.mp taken
      exact ⟨_, here ▸ .given isName, filled⟩
  · rintro ⟨x, written, filled⟩
    generalize find f.name = member at written
    cases written with
    | missing => exact .inl ⟨rfl, unchanged ▸ filled⟩
    | given isName => exact .inr ⟨_, ⟨_, rfl, Severity.ofJson_eq_ok.mpr ⟨_, isName, rfl⟩⟩, filled⟩

theorem decode_eq_ok {v : Value} (distinct : v.Distinct) {d : Diagnostic} :
    Diagnostic.record.decode v = .ok d ↔ Diagnostic.Written v d := by
  rw [Record.decode_eq_ok pairwise_apart (by simp [Diagnostic.record, positionField]) distinct]
  constructor
  · rintro ⟨ms, laid, _, filled, finished⟩
    have inside (name : String) (w : Value) (here : Members.get? ms name = some w) : w.Distinct :=
      laid.distinct distinct here
    obtain ⟨severity, hasSeverity, filled⟩ := (fillAll_severity (fun _ _ => rfl) rfl).mp filled
    obtain ⟨text, hasText, filled⟩ := (fillAll_text rfl).mp filled
    obtain ⟨start, hasStart, filled⟩ := (fillAll_position rfl (inside _)).mp filled
    obtain ⟨stop, hasStop, filled⟩ := (fillAll_position rfl (inside _)).mp filled
    cases filled
    cases finished
    exact .laid laid hasSeverity hasText hasStart hasStop
  · rintro (⟨laid, severity, text, start, stop⟩)
    have inside (name : String) (w : Value) (here : Members.get? _ name = some w) : w.Distinct :=
      laid.distinct distinct here
    refine ⟨_, laid, d, ?_, rfl⟩
    exact (fillAll_severity (fun _ _ => rfl) rfl).mpr ⟨_, severity, (fillAll_text rfl).mpr ⟨_, text,
      (fillAll_position rfl (inside _)).mpr ⟨_, start,
        (fillAll_position rfl (inside _)).mpr ⟨_, stop, rfl⟩⟩⟩⟩

end Diagnostic

namespace Hole

theorem pairwise_apart : Hole.record.fields.Pairwise RecordField.Apart := by
  simp only [Hole.record, List.pairwise_cons, List.forall_mem_cons, List.not_mem_nil]
  refine ⟨⟨?_, ?_, nofun⟩, ⟨?_, nofun⟩, nofun, .nil⟩ <;>
    exact .of_map (by decide) (fun _ _ => rfl) (fun _ _ => rfl) (fun _ _ _ => rfl)

theorem decode_eq_ok {v : Value} (distinct : v.Distinct) {h : Hole} :
    Hole.record.decode v = .ok h ↔ Hole.Written v h := by
  rw [Record.decode_eq_ok pairwise_apart (by simp [Hole.record, positionField]) distinct]
  constructor
  · rintro ⟨ms, laid, _, filled, finished⟩
    have inside (name : String) (w : Value) (here : Members.get? ms name = some w) : w.Distinct :=
      laid.distinct distinct here
    obtain ⟨goal, hasGoal, filled⟩ := (fillAll_text rfl).mp filled
    obtain ⟨start, hasStart, filled⟩ := (fillAll_position rfl (inside _)).mp filled
    obtain ⟨stop, hasStop, filled⟩ := (fillAll_position rfl (inside _)).mp filled
    cases filled
    cases finished
    exact .laid laid hasGoal hasStart hasStop
  · rintro (⟨laid, goal, start, stop⟩)
    have inside (name : String) (w : Value) (here : Members.get? _ name = some w) : w.Distinct :=
      laid.distinct distinct here
    refine ⟨_, laid, h, ?_, rfl⟩
    exact (fillAll_text rfl).mpr ⟨_, goal, (fillAll_position rfl (inside _)).mpr ⟨_, start,
      (fillAll_position rfl (inside _)).mpr ⟨_, stop, rfl⟩⟩⟩

end Hole

/-! ## A success -/

theorem forall₂_congr {α : Type} {Form Form' : Value → α → Prop} {vs : List Value} {as : List α}
    (same : ∀ v ∈ vs, ∀ a, Form v a ↔ Form' v a) :
    List.Forall₂ Form vs as ↔ List.Forall₂ Form' vs as := by
  induction vs generalizing as with
  | nil => simp only [List.forall₂_nil_left_iff]
  | cons v vs ih =>
    have rest (as : List α) : List.Forall₂ Form vs as ↔ List.Forall₂ Form' vs as :=
      ih fun w member => same w (List.mem_cons_of_mem v member)
    simp only [List.forall₂_cons_left_iff, same v (by simp), rest]

section Lists

variable {α σ : Type} {read : Value → Except ShapeError α} {Form : Value → α → Prop}

theorem asList_eq_ok_iff (same : ∀ v : Value, v.Distinct → ∀ a, read v = .ok a ↔ Form v a)
    {v : Value} (distinct : v.Distinct) {as : List α} :
    v.asList read = .ok as ↔ Listed Form (some v) as := by
  rw [asList_eq_ok]
  constructor
  · rintro ⟨vs, rfl, forms⟩
    cases distinct with
    | array items => exact .given ((forall₂_congr fun v member => same v (items v member)).mp forms)
  · rintro (_ | forms)
    cases distinct with
    | array items =>
      exact ⟨_, rfl, (forall₂_congr fun v member => same v (items v member)).mpr forms⟩

theorem fillAll_list (same : ∀ v : Value, v.Distinct → ∀ a, read v = .ok a ↔ Form v a)
    {find : String → Option Value} {f : RecordField σ} {fs : List (RecordField σ)}
    {set : List α → σ → σ} (store : ∀ v s, f.store v s = (v.asList read).map (set · s)) {s t : σ}
    (missing : set [] s = s) (distinct : ∀ v, find f.name = some v → v.Distinct) :
    fillAll find (f :: fs) s = some t ↔
      ∃ x, Listed Form (find f.name) x ∧ fillAll find fs (set x s) = some t := by
  rw [RecordField.fillAll_map store]
  constructor
  · rintro (⟨absent, filled⟩ | ⟨x, ⟨v, here, taken⟩, filled⟩)
    · exact ⟨[], absent ▸ .missing, by rwa [missing]⟩
    · exact ⟨x, here ▸ (asList_eq_ok_iff same (distinct v here)).mp taken, filled⟩
  · rintro ⟨x, listed, filled⟩
    cases here : find f.name with
    | none =>
      rw [here] at listed
      cases listed
      exact .inl ⟨rfl, missing ▸ filled⟩
    | some v =>
      rw [here] at listed
      exact .inr ⟨x, ⟨v, rfl, (asList_eq_ok_iff same (distinct v here)).mpr listed⟩, filled⟩

end Lists

namespace Outcome

theorem pairwise_apart : Outcome.record.fields.Pairwise RecordField.Apart := by
  simp only [Outcome.record, List.pairwise_cons, List.forall_mem_cons, List.not_mem_nil]
  refine ⟨⟨?_, ?_, nofun⟩, ⟨?_, nofun⟩, nofun, .nil⟩ <;>
    exact .of_map (by decide) (fun _ _ => rfl) (fun _ _ => rfl) (fun _ _ _ => rfl)

/-- The members of a success are those that are decoded. -/
theorem ofMembers_eq_ok {ms : Members} (distinct : (Value.object ms).Distinct) {o : Outcome} :
    Outcome.record.ofMembers ms = .ok o ↔ Outcome.Written ms o := by
  cases distinct with
  | object keys members =>
    have inside (name : String) (w : Value) (here : Members.get? ms name = some w) : w.Distinct :=
      members _ (Record.mem_of_get?_eq_some here)
    have unsigned (v : Value) (n : Nat) : v.asUnsigned64 = .ok n ↔ IsUnsigned v n := asUnsigned_eq_ok
    have messages (v : Value) (distinct : v.Distinct) (d : Diagnostic) :=
      Diagnostic.decode_eq_ok distinct (d := d)
    have holes (v : Value) (distinct : v.Distinct) (h : Hole) := Hole.decode_eq_ok distinct (h := h)
    rw [Record.ofMembers_eq_ok pairwise_apart keys]
    constructor
    · rintro ⟨_, filled, finished⟩
      obtain ⟨env, hasEnv, filled⟩ := (fillAll_optional (fun _ _ => rfl) rfl).mp filled
      obtain ⟨ds, hasMessages, filled⟩ :=
        (fillAll_list messages (fun _ _ => rfl) rfl (inside _)).mp filled
      obtain ⟨hs, hasHoles, filled⟩ := (fillAll_list holes (fun _ _ => rfl) rfl (inside _)).mp filled
      cases filled
      cases finished
      exact ⟨(Optionally.congr fun v _ => unsigned v).mp hasEnv, hasMessages, hasHoles⟩
    · rintro ⟨env, hasMessages, hasHoles⟩
      have hasEnv := (Optionally.congr fun v _ => unsigned v).mpr env
      exact ⟨o, (fillAll_optional (fun _ _ => rfl) rfl).mpr ⟨o.env, hasEnv,
        (fillAll_list messages (fun _ _ => rfl) rfl (inside _)).mpr ⟨o.messages, hasMessages,
          (fillAll_list holes (fun _ _ => rfl) rfl (inside _)).mpr ⟨o.holes, hasHoles, rfl⟩⟩⟩, rfl⟩

end Outcome

end NotebookKernel
