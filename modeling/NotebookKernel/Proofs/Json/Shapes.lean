import NotebookKernel.Proofs.Json.Canonical
import Mathlib.Data.List.Perm.Basic

/-! # Shapes of values

A shape says what a value looks like without saying in which order the members of its objects are
written.  A record in canonical form still has the shape that it is laid out in
(`record_canonical`), and two shapes of one value agree on each of its fields
(`agree_of_record`), so a shape that names all parts of a structure determines the structure.
-/

namespace NotebookKernel.Json

/-- What a value may look like. -/
abbrev Shape := Value → Prop

namespace Shape

/-- One particular value. -/
def exactly (w : Value) : Shape :=
  fun v => v = w

def text (s : String) : Shape :=
  exactly (.string s)

def flag (b : Bool) : Shape :=
  exactly (.bool b)

def number (n : Nat) : Shape :=
  exactly (.integer n)

def lines (ss : List String) : Shape :=
  exactly (.array (ss.map .string))

/-- An array of items with the given shapes. -/
inductive list (shapes : List Shape) : Shape
  | intro {vs : List Value} (items : List.Forall₂ (fun shape v => shape v) shapes vs) :
    list shapes (.array vs)

/-- A member of the given shape, or none if there is no shape either. -/
inductive Fits : Option Shape → Option Value → Prop
  | missing : Fits none none
  | given {shape : Shape} {v : Value} (fits : shape v) : Fits (some shape) (some v)

/-- An object with exactly the given fields, each of them once.  A field without a shape is
    missing. -/
inductive record (fields : List (String × Option Shape)) : Shape
  | intro {ms : Members} (once : (ms.map Prod.fst).Nodup)
    (known : ∀ m ∈ ms, m.1 ∈ fields.map Prod.fst)
    (filled : ∀ f ∈ fields, Fits f.2 (Members.get? ms f.1)) : record fields (.object ms)

/-- An object with exactly the given texts under their names. -/
inductive texts (entries : List (String × String)) : Shape
  | intro {ms : Members} (perm : ms.Perm (entries.map fun e => (e.1, .string e.2))) :
    texts entries (.object ms)

@[simp] theorem text_iff {s : String} {v : Value} : text s v ↔ v = .string s :=
  .rfl

@[simp] theorem flag_iff {b : Bool} {v : Value} : flag b v ↔ v = .bool b :=
  .rfl

@[simp] theorem number_iff {n : Nat} {v : Value} : number n v ↔ v = .integer n :=
  .rfl

@[simp] theorem lines_iff {ss : List String} {v : Value} :
    lines ss v ↔ v = .array (ss.map .string) :=
  .rfl

@[simp] theorem fits_none : Fits none none :=
  .missing

@[simp] theorem fits_some {shape : Shape} {v : Value} : Fits (some shape) (some v) ↔ shape v :=
  ⟨fun (.given fits) => fits, .given⟩

/-! ## Canonical form -/

theorem record_canonical {fields : List (String × Option Shape)} {ms : Members}
    (distinct : (ms.map Prod.fst).Nodup) (known : ∀ m ∈ ms, m.1 ∈ fields.map Prod.fst)
    (filled : ∀ f ∈ fields, Fits f.2 ((Members.get? ms f.1).map Value.canonical)) :
    record fields (Value.object ms).canonical := by
  refine .intro (nodup_canonicalMembers ms) (fun m member => ?_) fun f member => ?_
  · obtain ⟨n, inside, rfl⟩ := mem_canonicalMembers member
    exact known n inside
  · rw [get?_canonicalMembers distinct]
    exact filled f member

theorem list_canonical {shapes : List Shape} {vs : List Value}
    (items : List.Forall₂ (fun shape v => shape v.canonical) shapes vs) :
    list shapes (Value.array vs).canonical := by
  rw [Value.canonical, canonicalItems_eq]
  exact .intro (List.forall₂_map_right_iff.mpr items)

theorem texts_canonical {entries : List (String × String)}
    (distinct : (entries.map Prod.fst).Nodup) :
    texts entries (Value.object (entries.map fun e => (e.1, .string e.2))).canonical := by
  have keys :
      (entries.map fun e => (e.1, Value.string e.2)).map Prod.fst = entries.map Prod.fst := by
    rw [List.map_map]
    rfl
  refine .intro ((perm_canonicalMembers (keys ▸ distinct)).trans ?_)
  rw [List.map_map]
  exact .refl _

/-! ## Agreement -/

/-- One value has both shapes, or both are missing. -/
inductive Agree : Option Shape → Option Shape → Prop
  | missing : Agree none none
  | given {shape shape' : Shape} {v : Value} (left : shape v) (right : shape' v) :
    Agree (some shape) (some shape')

@[simp] theorem agree_exactly {v w : Value} : Agree (some (exactly v)) (some (exactly w)) ↔ v = w :=
  ⟨fun (.given left right) => left.symm.trans right, fun same => .given rfl same⟩

@[simp] theorem agree_text {s t : String} : Agree (some (text s)) (some (text t)) ↔ s = t := by
  simp [text]

@[simp] theorem agree_flag {b c : Bool} : Agree (some (flag b)) (some (flag c)) ↔ b = c := by
  simp [flag]

@[simp] theorem agree_number {n m : Nat} : Agree (some (number n)) (some (number m)) ↔ n = m := by
  rw [number, number, agree_exactly, Value.integer.injEq, Int.natCast_inj]

@[simp] theorem agree_lines {ss ts : List String} :
    Agree (some (lines ss)) (some (lines ts)) ↔ ss = ts := by
  have injective : Function.Injective Value.string := fun _ _ => Value.string.inj
  simp [lines, injective.list_map.eq_iff]

section Unique

variable {α : Type} (shape : α → Shape)

theorem eq_of_agree {x x' : α} (unique : ∀ v, shape x v → shape x' v → x = x')
    (agree : Agree (some (shape x)) (some (shape x'))) : x = x' := by
  cases agree with
  | given left right => exact unique _ left right

/-- Two things that may be missing are the same if they have a shape only in common. -/
theorem eq_of_agree_map {a a' : Option α}
    (unique : ∀ x ∈ a, ∀ x' ∈ a', ∀ v, shape x v → shape x' v → x = x')
    (agree : Agree (a.map shape) (a'.map shape)) : a = a' := by
  cases a with
  | none =>
    cases a' with
    | none => rfl
    | some => cases agree
  | some x =>
    cases a' with
    | none => cases agree
    | some x' => exact congrArg some (eq_of_agree shape (unique x rfl x' rfl) agree)

theorem list_unique {v : Value} {as as' : List α}
    (unique : ∀ {a a' v}, shape a v → shape a' v → a = a')
    (left : list (as.map shape) v) (right : list (as'.map shape) v) : as = as' := by
  cases left with
  | intro items =>
    cases right with
    | intro items' =>
      rw [List.forall₂_map_left_iff] at items items'
      have uniqueLeft : Relator.LeftUnique fun a v => shape a v := fun _ _ _ => unique
      exact uniqueLeft.forall₂ items items'

end Unique

theorem agree_of_filled {ms : Members} {fields fields' : List (String × Option Shape)}
    (filled : ∀ f ∈ fields, Fits f.2 (Members.get? ms f.1))
    (filled' : ∀ f ∈ fields', Fits f.2 (Members.get? ms f.1))
    (names : fields.map Prod.fst = fields'.map Prod.fst) :
    List.Forall₂ (fun f f' => Agree f.2 f'.2) fields fields' := by
  induction fields generalizing fields' with
  | nil =>
    obtain rfl := List.map_eq_nil_iff.mp names.symm
    exact .nil
  | cons f fields ih =>
    obtain ⟨f', rest, rfl, name, names⟩ := List.map_eq_cons_iff.mp names.symm
    have here := filled f (by simp)
    have here' := filled' f' (by simp)
    rw [name] at here'
    refine .cons ?_ (ih (fun g member => filled g (by simp [member]))
      (fun g member => filled' g (by simp [member])) names.symm)
    generalize f.2 = shape, f'.2 = shape', Members.get? ms f.1 = v at here here'
    cases here with
    | missing =>
      cases here'
      exact .missing
    | given left =>
      cases here' with
      | given right => exact .given left right

/-- A value that is laid out as two records with the same names has the fields of both. -/
theorem agree_of_record {fields fields' : List (String × Option Shape)} {v : Value}
    (left : record fields v) (right : record fields' v)
    (names : fields.map Prod.fst = fields'.map Prod.fst) :
    List.Forall₂ (fun f f' => Agree f.2 f'.2) fields fields' := by
  cases left with
  | intro _ _ filled =>
    cases right with
    | intro _ _ filled' => exact agree_of_filled filled filled' names

theorem texts_unique {entries entries' : List (String × String)} {v : Value}
    (ascending : entries.Pairwise (·.1 < ·.1)) (ascending' : entries'.Pairwise (·.1 < ·.1))
    (left : texts entries v) (right : texts entries' v) : entries = entries' := by
  have injective : Function.Injective fun e : String × String => (e.1, Value.string e.2) := by
    rintro ⟨_, _⟩ ⟨_, _⟩ same
    cases same
    rfl
  cases left with
  | intro perm =>
    cases right with
    | intro perm' =>
      have same : entries.Perm entries' :=
        (List.map_perm_map_iff injective).mp (perm.symm.trans perm')
      exact same.eq_of_pairwise (fun _ _ _ _ before behind => absurd before (lt_asymm behind))
        ascending ascending'

end Shape

end NotebookKernel.Json
