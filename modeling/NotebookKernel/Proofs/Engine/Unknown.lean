import NotebookKernel.Proofs.Engine.Views
import NotebookKernel.Proofs.Json.Canonical

/-! # What a response does not know

A newer engine may say more than the decoder has fields for.  `known` takes everything away that
has no field, on all four levels: from the document, from its messages and its open places, and
from their positions.  A value has the form of a success without it just if it has that form with
it, so two documents that differ in nothing else are decoded alike
(`Response.decode_agrees_of_known_eq`).
-/

namespace NotebookKernel

open NotebookKernel.Json
open NotebookKernel.Json.Record (Laid)
open NotebookKernel.Text (bytesOf)

/-! ## Taking members away -/

namespace Json

/-- The members with the given names, what stands under each of them trimmed further. -/
def Members.restrict (names : List String) (inside : String → Value → Value) (ms : Members) :
    Members :=
  (ms.filter fun m => m.1 ∈ names).map fun m => (m.1, inside m.1 m.2)

/-- A record without the members that have none of its names.  An array has no names to be
    missing from, but what its items hold is trimmed as well. -/
def Value.restrict (names : List String) (inside : String → Value → Value) : Value → Value
  | .object ms => .object (Members.restrict names inside ms)
  | .array vs => .array (List.zipWith inside names vs ++ vs.drop names.length)
  | v => v

/-- Every item of an array trimmed. -/
def Value.mapItems (f : Value → Value) : Value → Value
  | .array vs => .array (vs.map f)
  | v => v

theorem get?_filter (keep : String → Bool) (ms : Members) {key : String} (kept : keep key = true) :
    Members.get? (ms.filter fun m => keep m.1) key = Members.get? ms key := by
  induction ms with
  | nil => rfl
  | cons m ms ih =>
    rw [List.filter_cons, Record.get?_cons]
    split
    · rw [Record.get?_cons, ih]
    next dropped =>
      have other : key ≠ m.1 := by
        rintro rfl
        exact dropped kept
      rw [if_neg other, ih]

section Restrict

variable {names : List String} {inside : String → Value → Value}

theorem get?_restrict (ms : Members) {name : String} (known : name ∈ names) :
    Members.get? (Members.restrict names inside ms) name =
      (Members.get? ms name).map (inside name) := by
  rw [Members.restrict, get?_map, get?_filter (fun name => name ∈ names) ms (decide_eq_true known)]

theorem zip_zipWith (names : List String) (vs : List Value) :
    names.zip (List.zipWith inside names vs) =
      (names.zip vs).map fun m => (m.1, inside m.1 m.2) := by
  induction names generalizing vs with
  | nil => rfl
  | cons name names ih =>
    cases vs with
    | nil => rfl
    | cons v vs => simpa using ih vs

theorem restrictItems_eq {vs : List Value} (length : vs.length = names.length) :
    List.zipWith inside names vs ++ vs.drop names.length = List.zipWith inside names vs := by
  rw [List.drop_eq_nil_of_le (Nat.le_of_eq length), List.append_nil]

variable (inside) in
theorem length_restrictItems (names : List String) (vs : List Value) :
    (List.zipWith inside names vs ++ vs.drop names.length).length = vs.length := by
  simp only [List.length_append, List.length_zipWith, List.length_drop]
  omega

/-- What is laid out under a known name is kept, and trimmed. -/
theorem laid_restrict {v : Value} {ms : Members} (laid : Laid names v ms) :
    ∃ ms', Laid names (v.restrict names inside) ms' ∧
      ∀ name ∈ names, Members.get? ms' name = (Members.get? ms name).map (inside name) := by
  cases laid with
  | object => exact ⟨_, .object _, fun name known => get?_restrict ms known⟩
  | @array vs length =>
    have kept := (length_restrictItems inside names vs).trans length
    refine ⟨_, .array kept, fun name _ => ?_⟩
    rw [restrictItems_eq length, zip_zipWith, get?_map]

/-- Nothing else is laid out then. -/
theorem laid_of_restrict {v : Value} {ms' : Members}
    (laid : Laid names (v.restrict names inside) ms') :
    ∃ ms, Laid names v ms ∧
      ∀ name ∈ names, Members.get? ms' name = (Members.get? ms name).map (inside name) := by
  cases v with
  | object ms =>
    cases laid
    exact ⟨_, .object _, fun name known => get?_restrict ms known⟩
  | array vs =>
    cases laid with
    | array kept =>
      have length := (length_restrictItems inside names vs).symm.trans kept
      refine ⟨_, .array length, fun name _ => ?_⟩
      rw [restrictItems_eq length, zip_zipWith, get?_map]
  | _ => cases laid

/-- A record is the same without unknown members if its fields are. -/
theorem exists_laid_restrict {P : Members → Prop} {v : Value}
    (same : ∀ ms ms' : Members,
      (∀ name ∈ names, Members.get? ms' name = (Members.get? ms name).map (inside name)) →
        (P ms' ↔ P ms)) :
    (∃ ms, Laid names (v.restrict names inside) ms ∧ P ms) ↔ ∃ ms, Laid names v ms ∧ P ms := by
  constructor
  · rintro ⟨ms', laid, fields⟩
    obtain ⟨ms, laid, trimmed⟩ := laid_of_restrict laid
    exact ⟨ms, laid, (same ms ms' trimmed).mp fields⟩
  · rintro ⟨ms, laid, fields⟩
    obtain ⟨ms', laid, trimmed⟩ := laid_restrict laid
    exact ⟨ms', laid, (same ms ms' trimmed).mpr fields⟩

end Restrict

end Json

/-! ## What a response knows -/

/-- A position without unknown members. -/
def Position.known : Value → Value :=
  Value.restrict ["line", "column"] fun _ v => v

/-- What is known of a member of a message or an open place. -/
def knownInside (name : String) (v : Value) : Value :=
  if name = "pos" ∨ name = "endPos" then Position.known v else v

/-- A message without unknown members. -/
def Diagnostic.known : Value → Value :=
  Value.restrict ["severity", "data", "pos", "endPos"] knownInside

/-- An open place without unknown members. -/
def Hole.known : Value → Value :=
  Value.restrict ["goal", "pos", "endPos"] knownInside

/-- The members of a success without unknown ones. -/
def Outcome.known : Members → Members :=
  Members.restrict ["env", "messages", "sorries"] fun name =>
    if name = "messages" then Value.mapItems Diagnostic.known
    else if name = "sorries" then Value.mapItems Hole.known
    else id

/-! ## Forms -/

section Members

variable {α : Type} {Form : Value → α → Prop} {f : Value → Value} {member : Option Value}

theorem optionally_map (null : ∀ v, f v = .null ↔ v = .null) (same : ∀ v a, Form (f v) a ↔ Form v a)
    {a : Option α} : Optionally Form (member.map f) a ↔ Optionally Form member a := by
  cases member with
  | none => rfl
  | some v =>
    rw [Option.map_some]
    by_cases isNull : v = .null
    · rw [(null v).mpr isNull, isNull]
    · constructor
      · intro optional
        generalize image : f v = w at optional
        cases optional with
        | null => exact absurd ((null v).mp image) isNull
        | given _ form => exact .given isNull ((same _ _).mp (image ▸ form))
      · intro optional
        cases optional with
        | null => exact absurd rfl isNull
        | given notNull form => exact .given (mt (null v).mp notNull) ((same _ _).mpr form)

theorem listed_mapItems (same : ∀ v a, Form (f v) a ↔ Form v a) {as : List α} :
    Listed Form (member.map (Value.mapItems f)) as ↔ Listed Form member as := by
  have items (vs : List Value) : List.Forall₂ Form (vs.map f) as ↔ List.Forall₂ Form vs as := by
    rw [List.forall₂_map_left_iff]
    exact forall₂_congr fun v _ a => same v a
  cases member with
  | none => rfl
  | some v =>
    cases v with
    | array vs =>
      constructor
      · rintro (_ | forms)
        exact .given ((items vs).mp forms)
      · rintro (_ | forms)
        exact .given ((items vs).mpr forms)
    | _ => constructor <;> rintro (_ | _)

end Members

theorem restrict_eq_null {names : List String} {inside : String → Value → Value} (v : Value) :
    v.restrict names inside = .null ↔ v = .null := by
  cases v <;> simp [Value.restrict]

namespace Position

theorem written_iff {v : Value} {p : Position} :
    Written v p ↔ ∃ ms, Laid ["line", "column"] v ms ∧
      HasNumber ms "line" greatestUnsigned p.line ∧
      HasNumber ms "column" greatestUnsigned p.column :=
  ⟨fun ⟨laid, line, column⟩ => ⟨_, laid, line, column⟩,
    fun ⟨_, laid, line, column⟩ => .laid laid line column⟩

theorem written_known (v : Value) (p : Position) : Written (known v) p ↔ Written v p := by
  rw [written_iff, written_iff]
  refine exists_laid_restrict fun ms ms' same => ?_
  simp [HasNumber, same]

/-- The same holds where a position is optional. -/
theorem optionally_known {member : Option Value} {p : Option Position} :
    Optionally Written (member.map known) p ↔ Optionally Written member p :=
  optionally_map restrict_eq_null written_known

end Position

namespace Diagnostic

theorem written_iff {v : Value} {d : Diagnostic} :
    Written v d ↔ ∃ ms, Laid ["severity", "data", "pos", "endPos"] v ms ∧
      Severity.Written (Members.get? ms "severity") d.severity ∧
      Optionally IsText (Members.get? ms "data") d.text ∧
      Optionally Position.Written (Members.get? ms "pos") d.start ∧
      Optionally Position.Written (Members.get? ms "endPos") d.stop :=
  ⟨fun ⟨laid, severity, text, start, stop⟩ => ⟨_, laid, severity, text, start, stop⟩,
    fun ⟨_, laid, severity, text, start, stop⟩ => .laid laid severity text start stop⟩

theorem written_known (v : Value) (d : Diagnostic) : Written (known v) d ↔ Written v d := by
  rw [written_iff, written_iff]
  refine exists_laid_restrict fun ms ms' same => ?_
  have start : Members.get? ms' "pos" = (Members.get? ms "pos").map Position.known :=
    same "pos" (by simp)
  have stop : Members.get? ms' "endPos" = (Members.get? ms "endPos").map Position.known :=
    same "endPos" (by simp)
  have severity : Members.get? ms' "severity" = Members.get? ms "severity" :=
    (same "severity" (by simp)).trans Option.map_id'
  have text : Members.get? ms' "data" = Members.get? ms "data" :=
    (same "data" (by simp)).trans Option.map_id'
  rw [severity, text, start, stop, Position.optionally_known, Position.optionally_known]

end Diagnostic

namespace Hole

theorem written_iff {v : Value} {h : Hole} :
    Written v h ↔ ∃ ms, Laid ["goal", "pos", "endPos"] v ms ∧
      Optionally IsText (Members.get? ms "goal") h.goal ∧
      Optionally Position.Written (Members.get? ms "pos") h.start ∧
      Optionally Position.Written (Members.get? ms "endPos") h.stop :=
  ⟨fun ⟨laid, goal, start, stop⟩ => ⟨_, laid, goal, start, stop⟩,
    fun ⟨_, laid, goal, start, stop⟩ => .laid laid goal start stop⟩

theorem written_known (v : Value) (h : Hole) : Written (known v) h ↔ Written v h := by
  rw [written_iff, written_iff]
  refine exists_laid_restrict fun ms ms' same => ?_
  have start : Members.get? ms' "pos" = (Members.get? ms "pos").map Position.known :=
    same "pos" (by simp)
  have stop : Members.get? ms' "endPos" = (Members.get? ms "endPos").map Position.known :=
    same "endPos" (by simp)
  have goal : Members.get? ms' "goal" = Members.get? ms "goal" :=
    (same "goal" (by simp)).trans Option.map_id'
  rw [goal, start, stop, Position.optionally_known, Position.optionally_known]

end Hole

theorem Outcome.written_known (ms : Members) (o : Outcome) :
    Outcome.Written (Outcome.known ms) o ↔ Outcome.Written ms o := by
  have env : Members.get? (Outcome.known ms) "env" = Members.get? ms "env" := by
    rw [Outcome.known, get?_restrict ms (by simp)]
    exact Option.map_id'
  have messages : Members.get? (Outcome.known ms) "messages" =
      (Members.get? ms "messages").map (Value.mapItems Diagnostic.known) :=
    get?_restrict ms (by simp)
  have holes : Members.get? (Outcome.known ms) "sorries" =
      (Members.get? ms "sorries").map (Value.mapItems Hole.known) :=
    get?_restrict ms (by simp)
  constructor
  · rintro ⟨hasEnv, hasMessages, hasHoles⟩
    rw [env] at hasEnv
    rw [messages, listed_mapItems Diagnostic.written_known] at hasMessages
    rw [holes, listed_mapItems Hole.written_known] at hasHoles
    exact ⟨hasEnv, hasMessages, hasHoles⟩
  · rintro ⟨hasEnv, hasMessages, hasHoles⟩
    rw [← env] at hasEnv
    rw [← listed_mapItems Diagnostic.written_known, ← messages] at hasMessages
    rw [← listed_mapItems Hole.written_known, ← holes] at hasHoles
    exact ⟨hasEnv, hasMessages, hasHoles⟩

/-! ## Decoding -/

namespace Response

/-- Two documents that differ only in what a response does not know are both decoded or both
    refused.  What is decoded differs in nothing but the document. -/
theorem decode_agrees_of_known_eq {document document' : String} {ms ms' : Members}
    (parsed : Json.parse (bytesOf document) = .ok (.object ms))
    (parsed' : Json.parse (bytesOf document') = .ok (.object ms'))
    (noError : Members.get? ms "error" = none) (noError' : Members.get? ms' "error" = none)
    (same : Outcome.known ms = Outcome.known ms') :
    ((∃ r, decode document = .ok r) ↔ ∃ r', decode document' = .ok r') ∧
      ∀ r r', decode document = .ok r → decode document' = .ok r' →
        (∃ output env, r = .success output (.object ms) env ∧
          r' = .success output (.object ms') env) ∧
        r.messages = r'.messages ∧ r.holes = r'.holes ∧ r.goals = r'.goals ∧
        r.hasErrors = r'.hasErrors := by
  have written (o : Outcome) : Outcome.Written ms o ↔ Outcome.Written ms' o := by
    rw [← Outcome.written_known ms, same, Outcome.written_known]
  by_cases form : ∃ o, Outcome.Written ms o
  · obtain ⟨o, first⟩ := form
    have second := (written o).mp first
    have decoded := decode_of_success parsed noError first
    have decoded' := decode_of_success parsed' noError' second
    refine ⟨⟨fun _ => ⟨_, decoded'⟩, fun _ => ⟨_, decoded⟩⟩, fun r r' taken taken' => ?_⟩
    obtain rfl := Except.ok.inj (decoded.symm.trans taken)
    obtain rfl := Except.ok.inj (decoded'.symm.trans taken')
    -- The views read the documents again, which are different, and find the same outcome in them.
    obtain ⟨messages, holes⟩ :=
      views_eq (r := .success _ (.object ms) _) rfl (distinct_of_parse parsed) first
    obtain ⟨messages', holes'⟩ :=
      views_eq (r := .success _ (.object ms') _) rfl (distinct_of_parse parsed') second
    refine ⟨⟨_, _, rfl, rfl⟩, messages.trans messages'.symm, holes.trans holes'.symm, ?_, ?_⟩
    · simp only [goals, goalTexts, holes, holes']
    · simp only [hasErrors, messages, messages']
  · have form' : ¬ ∃ o, Outcome.Written ms' o := by simpa only [written] using form
    obtain ⟨reason, refused⟩ := decode_of_malformed parsed noError form
    obtain ⟨reason', refused'⟩ := decode_of_malformed parsed' noError' form'
    simp [refused, refused']

theorem decode_agrees_of_known_eq_newer :
    let older :=
      "\x7b\"env\":1,\"messages\":[\x7b\"data\":\"d\"\x7d],\"sorries\":[\x7b\"goal\":\"g\"," ++
        "\"pos\":\x7b\"column\":0,\"line\":1\x7d\x7d]\x7d"
    let newer :=
      "\x7b\"env\":1,\"id\":[],\"messages\":[\x7b\"data\":\"d\",\"kind\":\x7b\x7d\x7d]," ++
        "\"sorries\":[\x7b\"goal\":\"g\",\"name\":null," ++
        "\"pos\":\x7b\"column\":0,\"line\":1,\"unit\":0\x7d\x7d]\x7d"
    ∃ r r', decode older = .ok r ∧ decode newer = .ok r' ∧ r.messages = r'.messages ∧
      r.holes = r'.holes ∧ r.goals = r'.goals ∧ r.env = r'.env := by
  intro older newer
  let place : Members := [("column", .integer 0), ("line", .integer 1)]
  let ms : Members :=
    [("env", .integer 1), ("messages", .array [.object [("data", .string "d")]]),
      ("sorries", .array [.object [("goal", .string "g"), ("pos", .object place)]])]
  let ms' : Members :=
    [("env", .integer 1), ("id", .array []),
      ("messages", .array [.object [("data", .string "d"), ("kind", .object [])]]),
      ("sorries", .array [.object [("goal", .string "g"), ("name", .null),
        ("pos", .object (place ++ [("unit", .integer 0)]))]])]
  have text : bytesOf older = Text.encode (Value.object ms).render := by decide
  have text' : bytesOf newer = Text.encode (Value.object ms').render := by decide +kernel
  have exact : (Value.object ms).Exact greatestDepth := by simp [ms, place, greatestDepth]
  have exact' : (Value.object ms').Exact greatestDepth := by simp [ms', place, greatestDepth]
  have parsed : Json.parse (bytesOf older) = .ok (.object ms) := by
    rw [text, parse_render exact]
    rfl
  have parsed' : Json.parse (bytesOf newer) = .ok (.object ms') := by
    rw [text', parse_render exact']
    rfl
  obtain ⟨both, agree⟩ := decode_agrees_of_known_eq parsed parsed' rfl rfl rfl
  obtain ⟨r, decoded⟩ : ∃ r, decode older = .ok r := ⟨_, decode_eq_ok.mpr ⟨ms, parsed, rfl⟩⟩
  obtain ⟨r', decoded'⟩ := both.mp ⟨r, decoded⟩
  obtain ⟨⟨output, env, rfl, rfl⟩, messages, holes, goals, _⟩ := agree r r' decoded decoded'
  exact ⟨_, _, decoded, decoded', messages, holes, goals, rfl⟩

end Response

end NotebookKernel
