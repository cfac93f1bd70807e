import NotebookKernel.Proofs.Json.Layouts
import NotebookKernel.Proofs.Json.RoundTrip

/-! # Canonical form

Canonical form is reached in one step: a second one changes nothing (`canonical_canonical`).  An
object that repeats no key keeps all of its members and only has them put in order
(`perm_canonicalMembers`), so they are found under the same keys (`get?_canonicalMembers`).
-/

namespace NotebookKernel.Json

/-! ## Members in order -/

theorem addMember_first {key : String} {v : Value} {ms : Members} (first : ∀ m ∈ ms, key < m.1) :
    addMember key v ms = (key, v) :: ms := by
  cases ms with
  | nil => rfl
  | cons m ms => rw [addMember, if_pos (first m (by simp))]

/-- A member with a new key is added somewhere. -/
theorem perm_addMember {key : String} {v : Value} {ms : Members} (new : key ∉ ms.map Prod.fst) :
    (addMember key v ms).Perm ((key, v) :: ms) := by
  induction ms with
  | nil => exact .refl _
  | cons m ms ih =>
    obtain ⟨other, new⟩ := not_or.mp (mt List.mem_cons.mpr new)
    rw [addMember, if_neg other]
    split
    · exact .refl _
    · exact ((ih new).cons m).trans (.swap ..)

theorem perm_canonicalMembers {ms : Members} (distinct : (ms.map Prod.fst).Nodup) :
    (canonicalMembers ms).Perm (ms.map fun m => (m.1, m.2.canonical)) := by
  induction ms with
  | nil => exact .refl _
  | cons m ms ih =>
    obtain ⟨once, distinctRest⟩ := List.nodup_cons.mp distinct
    have perm := ih distinctRest
    have keys : (ms.map fun m => (m.1, m.2.canonical)).map Prod.fst = ms.map Prod.fst := by
      rw [List.map_map]
      rfl
    have new : m.1 ∉ (canonicalMembers ms).map Prod.fst := by
      rwa [(perm.map Prod.fst).mem_iff, keys]
    exact (perm_addMember new).trans (perm.cons _)

theorem get?_map (f : String → Value → Value) (ms : Members) (key : String) :
    Members.get? (ms.map fun m => (m.1, f m.1 m.2)) key = (Members.get? ms key).map (f key) := by
  induction ms with
  | nil => rfl
  | cons m ms ih =>
    rw [List.map_cons, Record.get?_cons, Record.get?_cons, ih]
    split
    next same => rw [same, Option.map_some]
    next => rfl

theorem get?_canonicalMembers {ms : Members} (distinct : (ms.map Prod.fst).Nodup) (key : String) :
    Members.get? (canonicalMembers ms) key = (Members.get? ms key).map Value.canonical := by
  rw [Record.get?_perm (nodup_canonicalMembers ms) (perm_canonicalMembers distinct)]
  exact get?_map (fun _ => Value.canonical) ms key

/-! ## One step -/

theorem canonicalItems_eq (vs : List Value) : canonicalItems vs = vs.map Value.canonical := by
  induction vs with
  | nil => rfl
  | cons v vs ih => rw [canonicalItems, ih, List.map_cons]

/-- Every member in canonical form is the canonical form of a member. -/
theorem mem_canonicalMembers {ms : Members} {m : String × Value}
    (member : m ∈ canonicalMembers ms) :
    ∃ n ∈ ms, m = (n.1, n.2.canonical) := by
  induction ms with
  | nil => cases member
  | cons n ms ih =>
    obtain rfl | member := mem_addMember member
    · exact ⟨n, by simp, rfl⟩
    · obtain ⟨n, inside, same⟩ := ih member
      exact ⟨n, by simp [inside], same⟩

theorem canonicalMembers_eq_self {ms : Members} (ascending : ms.Pairwise (·.1 < ·.1))
    (canonical : ∀ m ∈ ms, m.2.canonical = m.2) : canonicalMembers ms = ms := by
  induction ms with
  | nil => rfl
  | cons m ms ih =>
    obtain ⟨first, ascendingRest⟩ := List.pairwise_cons.mp ascending
    have rest := ih ascendingRest fun n member => canonical n (List.mem_cons_of_mem m member)
    rw [canonicalMembers, rest, canonical m (by simp), addMember_first first]

mutual

theorem canonical_canonical : (v : Value) → v.canonical.canonical = v.canonical
  | .null | .bool _ | .integer _ | .double _ | .string _ => rfl
  | .array vs => congrArg Value.array (canonicalItems_canonicalItems vs)
  | .object ms =>
    congrArg Value.object
      (canonicalMembers_eq_self (pairwise_canonicalMembers ms) (canonical_of_mem ms))

theorem canonicalItems_canonicalItems :
    (vs : List Value) → canonicalItems (canonicalItems vs) = canonicalItems vs
  | [] => rfl
  | v :: vs => congrArg₂ List.cons (canonical_canonical v) (canonicalItems_canonicalItems vs)

theorem canonical_of_mem :
    (ms : List (String × Value)) → ∀ m ∈ canonicalMembers ms, m.2.canonical = m.2
  | [], _, member => nomatch member
  | (_, w) :: ms, m, member => by
    obtain rfl | member := mem_addMember member
    · exact canonical_canonical w
    · exact canonical_of_mem ms m member

end

/-! ## Exact values -/

/-- Canonical form neither makes values deeper nor invents new ones. -/
theorem Value.Exact.canonical {depth : Nat} {v : Value} (exact : v.Exact depth) :
    v.canonical.Exact depth := by
  induction exact with
  | null => exact .null
  | bool b => exact .bool b
  | integer lower upper => exact .integer lower upper
  | string s => exact .string s
  | @array depth vs _ ih =>
    refine .array fun w member => ?_
    rw [canonicalItems_eq] at member
    obtain ⟨v, inside, rfl⟩ := List.mem_map.mp member
    exact ih v inside
  | object _ ih =>
    refine .object fun m member => ?_
    obtain ⟨n, inside, rfl⟩ := mem_canonicalMembers member
    exact ih n inside

end NotebookKernel.Json
