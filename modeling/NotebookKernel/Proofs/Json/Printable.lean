import NotebookKernel.Proofs.Json.RoundTrip

/-! # A value on a line

The text of any value is a single line, however large its numbers are.  Doubles are the one
kind of value that is not read back exactly; their text consists of digits and a few signs.
-/

namespace NotebookKernel.Json

open NotebookKernel.Decimal (Binary64 Digits digitChars)

/-! ## Numbers -/

theorem printable_digitChar (d : Nat) : 0x20 ≤ (Nat.digitChar d).toNat := by
  by_cases small : d < 16
  · exact Nat.le_trans (by decide) (toNat_digitChar_ge small)
  · have other : Nat.digitChar d = '*' := by
      unfold Nat.digitChar
      repeat rw [if_neg (by omega)]
    rw [other]
    decide

theorem Printable.sublist {cs ds : List Char} (printable : Printable ds) (sub : cs.Sublist ds) :
    Printable cs :=
  fun c member => printable c (sub.subset member)

theorem printable_replicate {c : Char} (printable : 0x20 ≤ c.toNat) (n : Nat) :
    Printable (List.replicate n c) := by
  intro d member
  rw [List.eq_of_mem_replicate member]
  exact printable

theorem printable_digitChars (digits : List Nat) : Printable (digitChars digits) := by
  intro c member
  obtain ⟨d, _, rfl⟩ := List.mem_map.mp member
  exact printable_digitChar d

theorem printable_toDigits (n : Nat) : Printable (Nat.toDigits 10 n) := by
  intro c member
  have digit := Nat.isDigit_of_mem_toDigits (by omega) (by omega) member
  have := toNat_of_isDigit digit
  omega

theorem printable_positional (d : Digits) : Printable (d.positional doubleNotation) := by
  have digits := printable_digitChars d.digits
  have zeros := printable_replicate (c := '0') (by decide)
  simp only [Digits.positional]
  split
  · exact ((printable_of_all rfl).append (zeros _)).append digits
  split
  · exact (digits.append (zeros _)).append (printable_of_all rfl)
  · have whole := digits.sublist (List.take_sublist d.point.toNat _)
    have fraction := digits.sublist (List.drop_sublist d.point.toNat _)
    exact whole.append (fraction.cons (by decide))

theorem printable_scientific (d : Digits) : Printable (d.scientific doubleNotation) := by
  have exponent : Printable ((if d.point - 1 < 0 then ['-'] else ['+']) ++
      Nat.toDigits 10 (d.point - 1).natAbs) := by
    refine Printable.append ?_ (printable_toDigits _)
    split <;> exact printable_of_all rfl
  have mark : Printable doubleNotation.exponentMark := printable_of_all rfl
  have digits := printable_digitChars d.digits
  unfold Digits.scientific
  split
  · exact printable_nil
  next c single =>
    rw [single] at digits
    exact (digits.append mark).append exponent
  next c cs _ several =>
    rw [several] at digits
    have fraction := (digits.sublist (List.sublist_cons_self c cs)).cons (c := '.') (by decide)
    exact ((fraction.cons (digits c (by simp))).append mark).append exponent

theorem printable_write (x : Binary64) : Printable (x.write doubleNotation) := by
  have sign : Printable (if x.negative then ['-'] else []) := by
    split
    · exact printable_of_all rfl
    · exact printable_nil
  by_cases zero : x.magnitude.mantissa = 0
  · simp only [Binary64.write, zero, if_true]
    exact sign.append (printable_of_all rfl)
  · simp only [Binary64.write, zero, if_false]
    refine sign.append ?_
    simp only [Digits.write]
    split
    · exact printable_positional _
    · exact printable_scientific _

/-! ## Values -/

mutual

/-- The text of a value has no control characters. -/
theorem Value.printable : (v : Value) → Printable v.render
  | .null => printable_of_all rfl
  | .bool true => printable_of_all rfl
  | .bool false => printable_of_all rfl
  | .integer i => printable_renderInteger i
  | .double x => printable_write x
  | .string s => printable_renderString s
  | .array [] => printable_of_all rfl
  | .array (v :: vs) =>
    ((v.printable.append (printable_moreItems (printable_items vs))).cons (by decide)).append
      (printable_of_all rfl)
  | .object [] => printable_of_all rfl
  | .object ((key, v) :: ms) =>
    have first := (printable_renderString key).append (v.printable.cons (c := ':') (by decide))
    ((first.append (printable_moreMembers (printable_members ms))).cons (by decide)).append
      (printable_of_all rfl)

theorem printable_items : (vs : List Value) → ∀ v ∈ vs, Printable v.render
  | [], _, member => nomatch member
  | w :: vs, v, member => by
    obtain same | member := List.mem_cons.mp member
    · exact same ▸ Value.printable w
    · exact printable_items vs v member

theorem printable_members : (ms : List (String × Value)) → ∀ m ∈ ms, Printable m.2.render
  | [], _, member => nomatch member
  | (_, w) :: ms, m, member => by
    obtain same | member := List.mem_cons.mp member
    · exact same ▸ Value.printable w
    · exact printable_members ms m member

end

end NotebookKernel.Json
