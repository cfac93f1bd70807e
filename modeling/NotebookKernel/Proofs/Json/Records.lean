import NotebookKernel.Json.Record
import NotebookKernel.Proofs.Json.Skipping

/-! # Records and the order of their members

An object fills a record member by member, in the order in which it is written.  If no key
occurs twice and the fields of the record do not get in each other's way, the order makes no
difference: every field can just as well look its own member up (`storeMembers_toOption`).
An array fills the fields one after the other.

Reading a record from a text comes to the same as reading a value and filling the record from
that (`readObject_toOption`).  Only the failures differ, which is why both are compared by what
they yield.
-/

namespace NotebookKernel.Json

open NotebookKernel.Text (Bytes)

variable {σ α : Type}

/-! ## What a field accepts -/

/-- A name is written as a string, or as the only key of an object whose value is null. -/
def Value.IsName (v : Value) (name : String) : Prop :=
  v = .string name ∨ v = .object [(name, .null)]

/-- A member that is a number from zero to a bound. -/
def HasNumber (ms : Members) (key : String) (bound n : Nat) : Prop :=
  n ≤ bound ∧ Members.get? ms key = some (.integer n)

theorem asString_eq_ok {expected : String} {v : Value} {text : String} :
    v.asString expected = .ok text ↔ v = .string text := by
  cases v <;> simp [Value.asString, Value.refuse]

theorem asBool_eq_ok {v : Value} {b : Bool} : v.asBool = .ok b ↔ v = .bool b := by
  cases v <;> simp [Value.asBool, Value.refuse]

theorem asUnsigned_eq_ok {bound : Nat} {expected : String} {v : Value} {n : Nat} :
    v.asUnsigned bound expected = .ok n ↔ n ≤ bound ∧ v = .integer n := by
  cases v with
  | integer i =>
    simp only [Value.asUnsigned, Bool.and_eq_true, decide_eq_true_eq, Value.integer.injEq]
    split
    · simp only [Except.ok.injEq]
      omega
    · simp only [reduceCtorEq, false_iff]
      omega
  | _ => simp [Value.asUnsigned, Value.refuse]

theorem asOptional_eq_ok {read : Value → Except ShapeError α} {v : Value} {a : Option α} :
    v.asOptional read = .ok a ↔ v = .null ∧ none = a ∨ v ≠ .null ∧ ∃ x, read v = .ok x ∧ some x = a := by
  cases v <;> simp [Value.asOptional, map_eq_ok]

theorem asList_eq_ok {read : Value → Except ShapeError α} {v : Value} {as : List α} :
    v.asList read = .ok as ↔ ∃ vs, v = .array vs ∧ List.Forall₂ (fun v a => read v = .ok a) vs as := by
  cases v with
  | array vs => simp [Value.asList, mapM_eq_ok]
  | _ => simp [Value.asList, Value.refuse]

/-! ## Fields -/

namespace RecordField

/-- The record with the field filled from its member, if there is one. -/
def fill (f : RecordField σ) (member : Option Value) (s : σ) : Option σ :=
  match member with
  | none => some s
  | some v => (f.store v s).toOption

/-- Two fields of different names that fill different parts of a record. -/
structure Apart (f g : RecordField σ) : Prop where
  names : f.name ≠ g.name
  parts (v w : Value) (s : σ) :
    ((f.store v s).toOption.bind fun s => (g.store w s).toOption) =
      (g.store w s).toOption.bind fun s => (f.store v s).toOption

theorem Apart.of_map {β γ : Type} {f g : RecordField σ} {readF : Value → Except ShapeError β}
    {readG : Value → Except ShapeError γ} {setF : β → σ → σ} {setG : γ → σ → σ}
    (names : f.name ≠ g.name) (storeF : ∀ v s, f.store v s = (readF v).map (setF · s))
    (storeG : ∀ v s, g.store v s = (readG v).map (setG · s))
    (commute : ∀ x y s, setG y (setF x s) = setF x (setG y s)) : Apart f g where
  names := names
  parts v w s := by
    simp only [storeF, storeG]
    cases readF v with
    | error e => cases readG w <;> rfl
    | ok x =>
      cases readG w with
      | error e => rfl
      | ok y => exact congrArg some (commute x y s)

/-- Fill fields in their own order, each with what is found under its name. -/
def fillAll (find : String → Option Value) : List (RecordField σ) → σ → Option σ
  | [], s => some s
  | f :: fs, s => (f.fill (find f.name) s).bind (fillAll find fs)

theorem fillAll_map {β : Type} {find : String → Option Value} {f : RecordField σ}
    {fs : List (RecordField σ)} {read : Value → Except ShapeError β} {set : β → σ → σ}
    (store : ∀ v s, f.store v s = (read v).map (set · s)) {s t : σ} :
    fillAll find (f :: fs) s = some t ↔
      find f.name = none ∧ fillAll find fs s = some t ∨
        ∃ x, (∃ v, find f.name = some v ∧ read v = .ok x) ∧ fillAll find fs (set x s) = some t := by
  rw [fillAll]
  cases find f.name with
  | none => simp [fill]
  | some v => simp [fill, store, Option.bind_eq_some_iff, toOption_eq_some, map_eq_ok]

theorem fillAll_congr {find find' : String → Option Value} {fs : List (RecordField σ)}
    (same : ∀ f ∈ fs, find f.name = find' f.name) (s : σ) : fillAll find fs s = fillAll find' fs s := by
  induction fs generalizing s with
  | nil => rfl
  | cons f fs ih =>
    have others := ih fun g member => same g (List.mem_cons_of_mem f member)
    rw [fillAll, fillAll, same f (by simp), funext others]

theorem fillAll_none (fs : List (RecordField σ)) (s : σ) : fillAll (fun _ => none) fs s = some s := by
  induction fs with
  | nil => rfl
  | cons f fs ih => exact ih

/-- A field can be filled first if the others stay away from it. -/
theorem fillAll_first {find find' : String → Option Value} {fs : List (RecordField σ)}
    (apart : fs.Pairwise Apart) {f : RecordField σ} (member : f ∈ fs) {v : Value}
    (here : find f.name = some v) (gone : find' f.name = none)
    (elsewhere : ∀ name, name ≠ f.name → find name = find' name) (s : σ) :
    fillAll find fs s = (f.store v s).toOption.bind (fillAll find' fs) := by
  induction fs generalizing s with
  | nil => cases member
  | cons g fs ih =>
    obtain ⟨away, apart⟩ := List.pairwise_cons.mp apart
    obtain rfl | inside := List.mem_cons.mp member
    · have others : ∀ g ∈ fs, find g.name = find' g.name :=
        fun g member => elsewhere _ (away g member).names.symm
      have rest : fillAll find' (f :: fs) = fillAll find fs := by
        funext s
        rw [fillAll, gone, fillAll_congr others]
        rfl
      rw [fillAll, here, rest]
      rfl
    · have between := away f inside
      rw [fillAll, elsewhere _ between.names, funext (ih apart inside)]
      simp only [fillAll]
      cases find' g.name with
      | none => rfl
      | some w =>
        simp only [fill, ← Option.bind_assoc]
        rw [between.parts w v s]

end RecordField

namespace Record

open RecordField (Apart fillAll)

/-! ## Objects -/

@[simp] theorem get?_nil (name : String) : Members.get? [] name = none :=
  rfl

theorem get?_cons (key name : String) (v : Value) (ms : Members) :
    Members.get? ((key, v) :: ms) name = if name = key then some v else Members.get? ms name := by
  by_cases same : name = key
  · simp only [Members.get?, same, List.lookup_cons_self, if_true]
  · simp only [Members.get?, List.lookup_cons, beq_eq_false_iff_ne.mpr same, if_neg same]

theorem get?_eq_none {ms : Members} {key : String} (absent : key ∉ ms.map Prod.fst) :
    Members.get? ms key = none := by
  induction ms with
  | nil => rfl
  | cons m ms ih =>
    obtain ⟨other, absent⟩ := not_or.mp (mt List.mem_cons.mpr absent)
    rw [get?_cons, if_neg other, ih absent]

theorem mem_of_get?_eq_some {ms : Members} {key : String} {v : Value}
    (found : Members.get? ms key = some v) : (key, v) ∈ ms := by
  induction ms with
  | nil => cases found
  | cons m ms ih =>
    rw [get?_cons] at found
    split at found
    next same =>
      cases found
      exact same ▸ List.mem_cons_self
    next => exact List.mem_cons_of_mem m (ih found)

theorem get?_of_mem {ms : Members} (distinct : (ms.map Prod.fst).Nodup) {key : String} {v : Value}
    (member : (key, v) ∈ ms) : Members.get? ms key = some v := by
  induction ms with
  | nil => cases member
  | cons m ms ih =>
    obtain ⟨once, distinctRest⟩ := List.nodup_cons.mp distinct
    rw [get?_cons]
    obtain rfl | member := List.mem_cons.mp member
    · exact if_pos rfl
    · have other : key ≠ m.1 := by
        rintro rfl
        exact once (List.mem_map.mpr ⟨_, member, rfl⟩)
      rw [if_neg other, ih distinctRest member]

theorem get?_perm {ms ms' : Members} (distinct : (ms.map Prod.fst).Nodup) (perm : ms.Perm ms')
    {key : String} : Members.get? ms key = Members.get? ms' key := by
  by_cases present : ∃ v, (key, v) ∈ ms
  · obtain ⟨v, member⟩ := present
    rw [get?_of_mem distinct member,
      get?_of_mem ((perm.map Prod.fst).nodup_iff.mp distinct) (perm.mem_iff.mp member)]
  · have absent : key ∉ ms.map Prod.fst := by simpa using present
    rw [get?_eq_none absent, get?_eq_none (mt (perm.map Prod.fst).mem_iff.mpr absent)]

theorem field?_eq_some {r : Record σ α} {key : String} {f : RecordField σ}
    (found : r.field? key = some f) : f ∈ r.fields ∧ f.name = key := by
  refine ⟨List.mem_of_find?_eq_some found, ?_⟩
  simpa using List.find?_some found

theorem name_ne_of_field?_eq_none {r : Record σ α} {key : String} (unknown : r.field? key = none)
    {f : RecordField σ} (member : f ∈ r.fields) : f.name ≠ key := by
  simpa using List.find?_eq_none.mp unknown f member

/-- Members without a repeated key fill the fields that are apart, whatever their order. -/
theorem storeMembers_toOption {r : Record σ α} (apart : r.fields.Pairwise Apart) {ms : Members}
    (distinct : (ms.map Prod.fst).Nodup) {seen : List String} (fresh : ∀ m ∈ ms, m.1 ∉ seen) (s : σ) :
    (r.storeMembers seen s ms).toOption = fillAll (Members.get? ms) r.fields s := by
  induction ms generalizing seen s with
  | nil => exact (RecordField.fillAll_none r.fields s).symm
  | cons m ms ih =>
    obtain ⟨key, v⟩ := m
    obtain ⟨once, distinctRest⟩ := List.nodup_cons.mp distinct
    have freshRest : ∀ m ∈ ms, m.1 ∉ seen :=
      fun m member => fresh m (List.mem_cons_of_mem _ member)
    rw [storeMembers]
    -- A member without a field is passed over; one with a field is the only one of its name.
    cases known : r.field? key with
    | none =>
      have others : ∀ f ∈ r.fields, Members.get? ((key, v) :: ms) f.name = Members.get? ms f.name := by
        intro f member
        rw [get?_cons, if_neg (name_ne_of_field?_eq_none known member)]
      rw [RecordField.fillAll_congr others]
      exact ih distinctRest freshRest s
    | some f =>
      obtain ⟨member, rfl⟩ := field?_eq_some known
      have new : seen.contains f.name = false := by
        simpa using fresh (f.name, v) (by simp)
      have freshRest : ∀ m ∈ ms, m.1 ∉ f.name :: seen := by
        intro m inside
        refine List.not_mem_cons_of_ne_of_not_mem (fun same => ?_) (freshRest m inside)
        exact once (List.mem_map.mpr ⟨m, inside, same⟩)
      have here : Members.get? ((f.name, v) :: ms) f.name = some v := by rw [get?_cons, if_pos rfl]
      have first := RecordField.fillAll_first apart member here (get?_eq_none once)
        (fun name other => by rw [get?_cons, if_neg other]) s
      simp only [new, Bool.false_eq_true, if_false]
      rw [first]
      cases f.store v s with
      | error e => rfl
      | ok s => exact ih distinctRest freshRest s

/-- A record looks its members up, if no key occurs twice. -/
theorem ofMembers_toOption {r : Record σ α} (apart : r.fields.Pairwise Apart) {ms : Members}
    (distinct : (ms.map Prod.fst).Nodup) :
    (r.ofMembers ms).toOption =
      (fillAll (Members.get? ms) r.fields r.start).bind fun s => (r.finish s).toOption := by
  have filled : (r.storeMembers [] r.start ms).toOption = fillAll (Members.get? ms) r.fields r.start :=
    storeMembers_toOption apart distinct (by simp) r.start
  rw [ofMembers, ← filled]
  cases r.storeMembers [] r.start ms <;> rfl

theorem ofMembers_eq_ok {r : Record σ α} (apart : r.fields.Pairwise Apart) {ms : Members}
    (distinct : (ms.map Prod.fst).Nodup) {a : α} :
    r.ofMembers ms = .ok a ↔
      ∃ s, fillAll (Members.get? ms) r.fields r.start = some s ∧ r.finish s = .ok a := by
  rw [← toOption_eq_some, ofMembers_toOption apart distinct, Option.bind_eq_some_iff]
  simp only [toOption_eq_some]

end Record

/-! ## Objects in a text -/

/-- A field that holds neither an array nor an object. -/
structure RecordField.IsScalar (f : RecordField σ) : Prop where
  array (vs : List Value) (s : σ) : (f.store (.array vs) s).toOption = none
  object (ms : Members) (s : σ) : (f.store (.object ms) s).toOption = none

namespace Record

open RecordField (IsScalar)

theorem readField_toOption {f : RecordField σ} (isScalar : f.IsScalar) {depth : Nat}
    {text rest : Bytes} {v : Value} (read : value depth text = .ok (v, rest)) (s : σ) :
    (readField f s text).toOption = (f.store v s).toOption.map (·, rest) := by
  obtain ⟨b, more, start, kind⟩ := value_cases read
  rw [readField, readScalar, start]
  obtain ⟨rfl, _, vs, _, rfl, _⟩ | ⟨rfl, _, ms, _, rfl, _⟩ | ⟨notArray, notObject, read⟩ := kind
  · rw [isScalar.array]
    rfl
  · rw [isScalar.object]
    rfl
  · simp only [notArray, notObject, if_false, read]
    cases f.store v s <;> rfl

theorem readMembers_toOption {r : Record σ α} (scalars : ∀ f ∈ r.fields, f.IsScalar) {depth n : Nat}
    {first : Bool} {text rest : Bytes} {ms : Members}
    (read : members (value depth) n first text = .ok (ms, rest)) (seen : List String) (s : σ) :
    (r.readMembers n first seen s text).toOption =
      (r.storeMembers seen s ms).toOption.map (·, rest) := by
  induction n generalizing first text ms seen s with
  | zero => cases read
  | succ n ih =>
    obtain ⟨rfl, found⟩ | ⟨key, behindKey, start, v, more, others, rfl, found, separated, taken, taken'⟩ :=
      members_cases read
    · rw [readMembers, found]
      rfl
    · rw [readMembers, found, storeMembers]
      cases known : r.field? key with
      | none =>
        have skipped : (colon behindKey).bind skipValue = .ok more := by
          rw [separated]
          exact skipValue_of_value taken
        simp only [known, skipped]
        exact ih taken' seen s
      | some f =>
        have stored := readField_toOption (scalars f (field?_eq_some known).1) taken s
        simp only [known]
        split
        · rfl
        · rw [separated]
          cases here : f.store v s with
          | error e =>
            rw [here] at stored
            obtain ⟨e', failed⟩ : ∃ e', readField f s start = .error e' := toOption_eq_none.mp stored
            simp only [failed]
            rfl
          | ok s' =>
            rw [here] at stored
            simp only [toOption_eq_some.mp stored]
            exact ih taken' _ s'

/-- An object read from a text is the record that its members describe. -/
theorem readObject_toOption {r : Record σ α} (scalars : ∀ f ∈ r.fields, f.IsScalar) {depth : Nat}
    {text rest : Bytes} {ms : Members}
    (read : members (value depth) (text.length + 1) true text = .ok (ms, rest)) :
    (r.readObject text).toOption = (r.ofMembers ms).toOption.map (·, rest) := by
  have filled := readMembers_toOption scalars read [] r.start
  rw [readObject, ofMembers]
  cases stored : r.storeMembers [] r.start ms with
  | error e =>
    rw [stored] at filled
    obtain ⟨e', failed⟩ := toOption_eq_none.mp filled
    simp only [failed]
    rfl
  | ok s =>
    rw [stored] at filled
    simp only [toOption_eq_some.mp filled]
    cases r.finish s <;> rfl

end Record

end NotebookKernel.Json
