import NotebookKernel.Proofs.Json.Records
import Mathlib.Data.String.Basic

/-! # Layouts of a record

A record is laid out as an object or as an array of its fields.  `Laid` says which value stands
under which name either way, and `decode_eq_ok` that a record is decoded by filling its fields
with these values.  The objects of a document have no repeated keys once it is in canonical
form (`distinct_canonical`).
-/

namespace NotebookKernel.Json

/-! ## Values without repeated keys -/

/-- No object in a value repeats a key. -/
inductive Value.Distinct : Value → Prop
  | null : Distinct .null
  | bool (b : Bool) : Distinct (.bool b)
  | integer (i : Int) : Distinct (.integer i)
  | double (x : Decimal.Binary64) : Distinct (.double x)
  | string (s : String) : Distinct (.string s)
  | array {vs : List Value} (items : ∀ v ∈ vs, Distinct v) : Distinct (.array vs)
  | object {ms : Members} (keys : (ms.map Prod.fst).Nodup) (members : ∀ m ∈ ms, Distinct m.2) :
    Distinct (.object ms)

theorem mem_addMember {key : String} {v : Value} {ms : Members} {m : String × Value}
    (member : m ∈ addMember key v ms) : m = (key, v) ∨ m ∈ ms := by
  induction ms with
  | nil => simpa [addMember] using member
  | cons n ms ih =>
    rw [addMember] at member
    split at member
    · simpa using member
    · split at member
      · exact .inr member
      · obtain rfl | member := List.mem_cons.mp member
        · exact .inr (by simp)
        · obtain same | inside := ih member
          · exact .inl same
          · exact .inr (List.mem_cons_of_mem n inside)

theorem pairwise_addMember {key : String} {v : Value} {ms : Members}
    (ascending : ms.Pairwise (·.1 < ·.1)) : (addMember key v ms).Pairwise (·.1 < ·.1) := by
  induction ms with
  | nil => simp [addMember]
  | cons n ms ih =>
    obtain ⟨first, rest⟩ := List.pairwise_cons.mp ascending
    rw [addMember]
    split
    next smaller =>
      refine List.pairwise_cons.mpr ⟨fun m member => ?_, ascending⟩
      obtain rfl | member := List.mem_cons.mp member
      · exact smaller
      · exact lt_trans smaller (first m member)
    next notSmaller =>
      split
      next => exact ascending
      next other =>
        refine List.pairwise_cons.mpr ⟨fun m member => ?_, ih rest⟩
        obtain rfl | member := mem_addMember member
        · exact lt_of_le_of_ne (not_lt.mp notSmaller) (Ne.symm other)
        · exact first m member

theorem pairwise_canonicalMembers (ms : Members) :
    (canonicalMembers ms).Pairwise (·.1 < ·.1) := by
  induction ms with
  | nil => exact .nil
  | cons m ms ih => exact pairwise_addMember ih

theorem nodup_canonicalMembers (ms : Members) : ((canonicalMembers ms).map Prod.fst).Nodup :=
  List.pairwise_map.mpr ((pairwise_canonicalMembers ms).imp ne_of_lt)

mutual

theorem distinct_canonical : (v : Value) → v.canonical.Distinct
  | .null => .null
  | .bool b => .bool b
  | .integer i => .integer i
  | .double x => .double x
  | .string s => .string s
  | .array vs => .array (distinct_canonicalItems vs)
  | .object ms => .object (nodup_canonicalMembers ms) (distinct_canonicalMembers ms)

theorem distinct_canonicalItems : (vs : List Value) → ∀ v ∈ canonicalItems vs, v.Distinct
  | [], _, member => nomatch member
  | w :: vs, v, member => by
    obtain rfl | member := List.mem_cons.mp member
    · exact distinct_canonical w
    · exact distinct_canonicalItems vs v member

theorem distinct_canonicalMembers :
    (ms : List (String × Value)) → ∀ m ∈ canonicalMembers ms, m.2.Distinct
  | [], _, member => nomatch member
  | (_, w) :: ms, m, member => by
    obtain rfl | member := mem_addMember member
    · exact distinct_canonical w
    · exact distinct_canonicalMembers ms m member

end

theorem distinct_of_parse {text : Text.Bytes} {v : Value} (parsed : parse text = .ok v) :
    v.Distinct := by
  obtain ⟨w, _, rfl⟩ := map_eq_ok.mp parsed
  exact distinct_canonical w

/-! ## Arrays -/

variable {σ α : Type}

open RecordField (Apart fillAll)

namespace Record

/-- The items of an array as members, if they stand for fields in their order. -/
def named (fs : List (RecordField σ)) (vs : List Value) : Members :=
  (fs.map (·.name)).zip vs

theorem fillAll_named {f : RecordField σ} {fs : List (RecordField σ)}
    (apart : (f :: fs).Pairwise Apart) (v : Value) (vs : List Value) (s : σ) :
    fillAll (Members.get? (named (f :: fs) (v :: vs))) (f :: fs) s =
      (f.store v s).toOption.bind (fillAll (Members.get? (named fs vs)) fs) := by
  obtain ⟨away, _⟩ := List.pairwise_cons.mp apart
  have here : Members.get? (named (f :: fs) (v :: vs)) f.name = some v := List.lookup_cons_self
  have others : ∀ g ∈ fs, Members.get? (named (f :: fs) (v :: vs)) g.name =
      Members.get? (named fs vs) g.name := by
    intro g member
    exact (get?_cons f.name g.name v _).trans (if_neg (away g member).names.symm)
  rw [fillAll, here, funext (RecordField.fillAll_congr others)]
  rfl

/-- Unless the last field may be left out, an array has to hold an item for every field. -/
theorem storeItems_toOption {expectedLength : String} {n : Nat} {fs : List (RecordField σ)}
    (apart : fs.Pairwise Apart) (last : ∀ f ∈ fs.getLast?, f.defaulted = false) (vs : List Value)
    (s : σ) :
    (storeItems expectedLength n fs s vs).toOption =
      if fs.length ≤ vs.length then
        (fillAll (Members.get? (named fs vs)) fs s).map fun s => (s, vs.drop fs.length)
      else none := by
  induction fs generalizing n s vs with
  | nil => simp [storeItems, fillAll]
  | cons f fs ih =>
    obtain ⟨_, apartRest⟩ := List.pairwise_cons.mp apart
    have lastRest : ∀ g ∈ fs.getLast?, g.defaulted = false := by
      intro g member
      cases fs with
      | nil => cases member
      | cons => exact last g (by simpa using member)
    cases vs with
    | nil =>
      cases fs with
      | nil =>
        unfold storeItems
        rw [last f rfl]
        rfl
      | cons g fs =>
        unfold storeItems
        split
        · exact ih apartRest lastRest [] s
        · rfl
    | cons v vs =>
      rw [storeItems, fillAll_named apart]
      cases f.store v s with
      | error e => simp
      | ok s => simpa using ih apartRest lastRest vs s

theorem ofItems_eq_ok {r : Record σ α} (apart : r.fields.Pairwise Apart)
    (last : ∀ f ∈ r.fields.getLast?, f.defaulted = false) {vs : List Value} {a : α} :
    r.ofItems vs = .ok a ↔ vs.length = r.fields.length ∧
      ∃ s, fillAll (Members.get? (named r.fields vs)) r.fields r.start = some s ∧ r.finish s = .ok a := by
  have stored : (storeItems r.expectedLength 0 r.fields r.start vs).toOption = _ :=
    storeItems_toOption apart last vs r.start
  constructor
  · intro made
    unfold ofItems at made
    split at made
    · cases made
    next s left items =>
      split at made
      · cases made
      next finished =>
        split at made
        next nothingLeft =>
          cases made
          rw [items] at stored
          split at stored
          next enough =>
            obtain ⟨_, filled, same⟩ := Option.map_eq_some_iff.mp stored.symm
            cases same
            have short := List.drop_eq_nil_iff.mp (List.isEmpty_iff.mp nothingLeft)
            exact ⟨Nat.le_antisymm short enough, s, filled, finished⟩
          next => cases stored
        next => cases made
  · rintro ⟨length, s, filled, finished⟩
    rw [if_pos (Nat.le_of_eq length.symm), filled, ← length, List.drop_length] at stored
    rw [ofItems, toOption_eq_some.mp stored]
    simp [finished]

/-! ## Either layout -/

/-- The members of a record, which an array leaves without their names. -/
inductive Laid (names : List String) : Value → Members → Prop
  | object (ms : Members) : Laid names (.object ms) ms
  | array {vs : List Value} (length : vs.length = names.length) :
    Laid names (.array vs) (names.zip vs)

theorem Laid.distinct {names : List String} {v w : Value} {ms : Members} (laid : Laid names v ms)
    (distinct : v.Distinct) {name : String} (found : Members.get? ms name = some w) :
    w.Distinct := by
  have member := mem_of_get?_eq_some found
  cases laid with
  | object ms =>
    cases distinct with
    | object _ members => exact members _ member
  | array =>
    cases distinct with
    | array items => exact items w (List.of_mem_zip member).2

/-- Without repeated keys, a record is decoded from the values under its names. -/
theorem decode_eq_ok {r : Record σ α} (apart : r.fields.Pairwise Apart)
    (last : ∀ f ∈ r.fields.getLast?, f.defaulted = false) {v : Value} (distinct : v.Distinct)
    {a : α} :
    r.decode v = .ok a ↔ ∃ ms, Laid (r.fields.map (·.name)) v ms ∧
      ∃ s, fillAll (Members.get? ms) r.fields r.start = some s ∧ r.finish s = .ok a := by
  constructor
  · intro decoded
    cases distinct with
    | object keys => exact ⟨_, .object _, (ofMembers_eq_ok apart keys).mp decoded⟩
    | array =>
      obtain ⟨length, filled⟩ := (ofItems_eq_ok apart last).mp decoded
      exact ⟨_, .array (by simpa using length), filled⟩
    | _ => cases decoded
  · rintro ⟨ms, laid, filled⟩
    cases laid with
    | object ms =>
      cases distinct with
      | object keys => exact (ofMembers_eq_ok apart keys).mpr filled
    | array length => exact (ofItems_eq_ok apart last).mpr ⟨by simpa using length, filled⟩

end Record

end NotebookKernel.Json
