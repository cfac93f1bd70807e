import NotebookKernel.Kernel.Request
import NotebookKernel.Proofs.Json.Records

/-! # What an envelope describes

A reading of envelopes that knows no order: `Describes` looks up the two members of an envelope
and the arguments in its content.  The decoder of values agrees with it as long as no key is
repeated (`ofJson_eq_ok`); an argument that is given twice it would refuse.
-/

namespace NotebookKernel

open NotebookKernel.Json
open NotebookKernel.Json.RecordField (fillAll)
open NotebookKernel.Text (Bytes)

namespace Request

/-! ## The reading without an order -/

/-- The kind of a request. -/
def kind : Request → Kind
  | .execute .. => .execute
  | .complete .. => .complete
  | .inspect .. => .inspect
  | .isComplete _ => .isComplete
  | .kernelInfo => .kernelInfo
  | .shutdown _ => .shutdown

/-- A member that is a truth value; without it, it is false. -/
def HasFlag (ms : Members) (key : String) (b : Bool) : Prop :=
  Members.get? ms key = some (.bool b) ∨ Members.get? ms key = none ∧ b = false

/-- The arguments of a request among the members of its content. -/
def HasArguments (ms : Members) : Request → Prop
  | .execute code silent =>
    Members.get? ms "code" = some (.string code) ∧ HasFlag ms "silent" silent
  | .complete code cursor =>
    Members.get? ms "code" = some (.string code) ∧
      HasNumber ms "cursor_pos" greatestUnsigned cursor
  | .inspect code cursor detail =>
    Members.get? ms "code" = some (.string code) ∧
      HasNumber ms "cursor_pos" greatestUnsigned cursor ∧
      (HasNumber ms "detail_level" 255 detail ∨ Members.get? ms "detail_level" = none ∧ detail = 0)
  | .isComplete code => Members.get? ms "code" = some (.string code)
  | .kernelInfo => True
  | .shutdown restart => HasFlag ms "restart" restart

/-- A request that the members of an envelope describe. -/
structure Describes (ms : Members) (r : Request) : Prop where
  tag : ∃ v, Members.get? ms "msg_type" = some v ∧ v.IsName r.kind.tag
  content : ∃ arguments, Members.get? ms "content" = some (.object arguments) ∧
    HasArguments arguments r

/-! ## Names and arguments of a kind -/

theorem ofTag_eq_ok {tag : String} {kind : Kind} : Kind.ofTag tag = .ok kind ↔ tag = kind.tag := by
  constructor
  · intro named
    unfold Kind.ofTag at named
    split at named
    next found =>
      cases named
      have same := List.find?_some found
      exact (beq_iff_eq.mp same).symm
    next => cases named
  · rintro rfl
    cases kind <;> decide

theorem kindOfJson_eq_ok {v : Value} {kind : Kind} :
    kindOfJson v = .ok kind ↔ v.IsName kind.tag := by
  unfold kindOfJson Value.IsName
  split
  next tag => simp [ofTag_eq_ok]
  next tag => simp [ofTag_eq_ok]
  next key w notNull =>
    simp only [Value.refuse, reduceCtorEq, Value.object.injEq, List.cons.injEq, Prod.mk.injEq, and_true,
      false_or, false_iff, not_and]
    rintro rfl null
    exact notNull null
  next notString notWrapped _ =>
    simp only [Value.refuse, reduceCtorEq, false_iff, not_or]
    exact ⟨notString _, notWrapped _⟩

namespace Kind

theorem isScalar_of_mem {kind : Kind} {f : RecordField Arguments} (member : f ∈ kind.fields) :
    f.IsScalar := by
  have known : f ∈ [codeField, cursorField, detailField, silentField, restartField] := by
    cases kind <;> simp [Kind.fields] at member ⊢ <;> tauto
  simp only [List.mem_cons, List.not_mem_nil, or_false] at known
  obtain rfl | rfl | rfl | rfl | rfl := known <;> exact ⟨fun _ _ => rfl, fun _ _ => rfl⟩

theorem pairwise_apart (kind : Kind) : kind.fields.Pairwise RecordField.Apart := by
  have code {f : RecordField Arguments} (other : f ∈ [cursorField, detailField, silentField]) :
      RecordField.Apart codeField f := by
    simp only [List.mem_cons, List.not_mem_nil, or_false] at other
    obtain rfl | rfl | rfl := other <;>
      exact .of_map (by decide) (fun _ _ => rfl) (fun _ _ => rfl) (fun _ _ _ => rfl)
  have cursor : RecordField.Apart cursorField detailField :=
    .of_map (by decide) (fun _ _ => rfl) (fun _ _ => rfl) (fun _ _ _ => rfl)
  cases kind <;> simp [Kind.fields, code, cursor]

end Kind

/-! ## Contents -/

/-! An argument that has not been filled yet becomes what its member holds, or stays missing. -/

section Fields

variable {find : String → Option Value} {fs : List (RecordField Arguments)} {a b : Arguments}

theorem fillAll_code (missing : a.code = none) :
    fillAll find (codeField :: fs) a = some b ↔
      ∃ x : Option String, find "code" = x.map .string ∧
        fillAll find fs { a with code := x } = some b := by
  cases a
  cases missing
  rw [RecordField.fillAll_map fun _ _ => rfl, Option.exists]
  simp [asString_eq_ok, codeField]

theorem fillAll_cursor (missing : a.cursor = none) :
    fillAll find (cursorField :: fs) a = some b ↔
      ∃ x : Option Nat, ((∀ n ∈ x, n ≤ greatestUnsigned) ∧
        find "cursor_pos" = x.map fun n => .integer n) ∧
        fillAll find fs { a with cursor := x } = some b := by
  cases a
  cases missing
  rw [RecordField.fillAll_map fun _ _ => rfl, Option.exists]
  simp [asUnsigned_eq_ok, cursorField, and_comm]

theorem fillAll_detail (missing : a.detail = none) :
    fillAll find (detailField :: fs) a = some b ↔
      ∃ x : Option Nat, ((∀ n ∈ x, n ≤ 255) ∧ find "detail_level" = x.map fun n => .integer n) ∧
        fillAll find fs { a with detail := x } = some b := by
  cases a
  cases missing
  rw [RecordField.fillAll_map fun _ _ => rfl, Option.exists]
  simp [asUnsigned_eq_ok, detailField, and_comm]

theorem fillAll_silent (missing : a.silent = none) :
    fillAll find (silentField :: fs) a = some b ↔
      ∃ x : Option Bool, find "silent" = x.map .bool ∧
        fillAll find fs { a with silent := x } = some b := by
  cases a
  cases missing
  rw [RecordField.fillAll_map fun _ _ => rfl, Option.exists]
  simp [asBool_eq_ok, silentField]

theorem fillAll_restart (missing : a.restart = none) :
    fillAll find (restartField :: fs) a = some b ↔
      ∃ x : Option Bool, find "restart" = x.map .bool ∧
        fillAll find fs { a with restart := x } = some b := by
  cases a
  cases missing
  rw [RecordField.fillAll_map fun _ _ => rfl, Option.exists]
  simp [asBool_eq_ok, restartField]

end Fields

theorem hasFlag_iff {ms : Members} {key : String} {b : Bool} :
    HasFlag ms key b ↔ ∃ x : Option Bool, Members.get? ms key = x.map .bool ∧ x.getD false = b := by
  rw [HasFlag, Option.exists]
  simp [or_comm, eq_comm]

theorem hasArguments_of_filled {kind : Kind} {ms : Members} {a : Arguments} {r : Request}
    (filled : fillAll (Members.get? ms) kind.fields {} = some a) (built : kind.build a = .ok r) :
    r.kind = kind ∧ HasArguments ms r := by
  cases kind with
  | execute =>
    obtain ⟨code, hasCode, filled⟩ := (fillAll_code rfl).mp filled
    obtain ⟨silent, hasSilent, filled⟩ := (fillAll_silent rfl).mp filled
    cases filled
    cases code with
    | none => cases built
    | some code =>
      cases built
      exact ⟨rfl, hasCode, hasFlag_iff.mpr ⟨silent, hasSilent, rfl⟩⟩
  | complete =>
    obtain ⟨code, hasCode, filled⟩ := (fillAll_code rfl).mp filled
    obtain ⟨cursor, ⟨bound, hasCursor⟩, filled⟩ := (fillAll_cursor rfl).mp filled
    cases filled
    cases code with
    | none => cases built
    | some code =>
      cases cursor with
      | none => cases built
      | some cursor =>
        cases built
        exact ⟨rfl, hasCode, bound cursor rfl, hasCursor⟩
  | inspect =>
    obtain ⟨code, hasCode, filled⟩ := (fillAll_code rfl).mp filled
    obtain ⟨cursor, ⟨bound, hasCursor⟩, filled⟩ := (fillAll_cursor rfl).mp filled
    obtain ⟨detail, ⟨bound', hasDetail⟩, filled⟩ := (fillAll_detail rfl).mp filled
    cases filled
    cases code with
    | none => cases built
    | some code =>
      cases cursor with
      | none => cases built
      | some cursor =>
        cases built
        refine ⟨rfl, hasCode, ⟨bound cursor rfl, hasCursor⟩, ?_⟩
        cases detail with
        | none => exact .inr ⟨hasDetail, rfl⟩
        | some detail => exact .inl ⟨bound' detail rfl, hasDetail⟩
  | isComplete =>
    obtain ⟨code, hasCode, filled⟩ := (fillAll_code rfl).mp filled
    cases filled
    cases code with
    | none => cases built
    | some code =>
      cases built
      exact ⟨rfl, hasCode⟩
  | kernelInfo =>
    cases built
    exact ⟨rfl, trivial⟩
  | shutdown =>
    obtain ⟨restart, hasRestart, filled⟩ := (fillAll_restart rfl).mp filled
    cases filled
    cases built
    exact ⟨rfl, hasFlag_iff.mpr ⟨restart, hasRestart, rfl⟩⟩

theorem filled_of_hasArguments {ms : Members} {r : Request} (has : HasArguments ms r) :
    ∃ a, fillAll (Members.get? ms) r.kind.fields {} = some a ∧ r.kind.build a = .ok r := by
  cases r with
  | execute code silent =>
    obtain ⟨hasCode, flag⟩ := has
    obtain ⟨x, hasSilent, rfl⟩ := hasFlag_iff.mp flag
    exact ⟨_, (fillAll_code rfl).mpr ⟨some code, hasCode,
      (fillAll_silent rfl).mpr ⟨x, hasSilent, rfl⟩⟩, rfl⟩
  | complete code cursor =>
    obtain ⟨hasCode, bound, hasCursor⟩ := has
    exact ⟨_, (fillAll_code rfl).mpr ⟨some code, hasCode,
      (fillAll_cursor rfl).mpr ⟨some cursor, ⟨by simpa using bound, hasCursor⟩, rfl⟩⟩, rfl⟩
  | inspect code cursor detail =>
    obtain ⟨hasCode, ⟨bound, hasCursor⟩, hasDetail⟩ := has
    obtain ⟨x, found, rfl⟩ : ∃ x : Option Nat, ((∀ n ∈ x, n ≤ 255) ∧
        Members.get? ms "detail_level" = x.map fun n => .integer n) ∧ x.getD 0 = detail := by
      obtain ⟨bound', here⟩ | ⟨absent, rfl⟩ := hasDetail
      · exact ⟨some detail, ⟨by simpa using bound', here⟩, rfl⟩
      · exact ⟨none, ⟨by simp, absent⟩, rfl⟩
    exact ⟨_, (fillAll_code rfl).mpr ⟨some code, hasCode,
      (fillAll_cursor rfl).mpr ⟨some cursor, ⟨by simpa using bound, hasCursor⟩,
        (fillAll_detail rfl).mpr ⟨x, found, rfl⟩⟩⟩, rfl⟩
  | isComplete code => exact ⟨_, (fillAll_code rfl).mpr ⟨some code, has, rfl⟩, rfl⟩
  | kernelInfo => exact ⟨{}, rfl, rfl⟩
  | shutdown restart =>
    obtain ⟨x, hasRestart, rfl⟩ := hasFlag_iff.mp has
    exact ⟨_, (fillAll_restart rfl).mpr ⟨x, hasRestart, rfl⟩, rfl⟩

/-- The arguments of a kind are looked up, if none is given twice. -/
theorem ofMembers_eq_ok {kind : Kind} {ms : Members} (distinct : (ms.map Prod.fst).Nodup)
    {r : Request} : kind.record.ofMembers ms = .ok r ↔ r.kind = kind ∧ HasArguments ms r := by
  rw [Record.ofMembers_eq_ok (Kind.pairwise_apart kind) distinct]
  constructor
  · rintro ⟨a, filled, built⟩
    exact hasArguments_of_filled filled built
  · rintro ⟨rfl, has⟩
    exact filled_of_hasArguments has

theorem required_eq_ok {α : Type} {name : String} {x : Option α} {a : α} :
    required name x = .ok a ↔ x = some a := by
  cases x <;> simp [required]

theorem ofContent_eq_ok {kind : Kind} {v : Value} {r : Request} :
    ofContent kind v = .ok r ↔ ∃ ms, v = .object ms ∧ kind.record.ofMembers ms = .ok r := by
  cases v <;> simp [ofContent, Value.refuse]

/-- Without repeated keys, the reading as a value is the one without an order. -/
theorem ofJson_eq_ok {ms : Members}
    (distinct : ∀ arguments, Members.get? ms "content" = some (.object arguments) →
      (arguments.map Prod.fst).Nodup) {r : Request} :
    ofJson (.object ms) = .ok r ↔ Describes ms r := by
  simp only [ofJson, bind, bind_eq_ok, required_eq_ok, kindOfJson_eq_ok, ofContent_eq_ok]
  constructor
  · rintro ⟨tag, hasTag, kind, named, content, hasContent, arguments, rfl, made⟩
    obtain ⟨rfl, has⟩ := (ofMembers_eq_ok (distinct arguments hasContent)).mp made
    exact ⟨⟨tag, hasTag, named⟩, arguments, hasContent, has⟩
  · rintro ⟨⟨tag, hasTag, named⟩, arguments, hasContent, has⟩
    have made := (ofMembers_eq_ok (distinct arguments hasContent)).mpr ⟨rfl, has⟩
    exact ⟨tag, hasTag, r.kind, named, _, hasContent, arguments, rfl, made⟩

end Request

end NotebookKernel
