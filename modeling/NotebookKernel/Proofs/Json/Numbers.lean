import NotebookKernel.Json.Reader
import NotebookKernel.Proofs.Text.Utf8

/-! # Integers there and back

The digits of an integer are read back as that integer, as long as it fits and what follows
cannot be taken for a part of it.
-/

namespace NotebookKernel.Json

open NotebookKernel.Text (Bytes encode)

/-- What follows a number does not go on with it. -/
def Delimited (rest : Bytes) : Prop :=
  ∀ b ∈ rest.head?, isDigit b = false ∧ b ≠ 0x2E ∧ b ≠ 0x65 ∧ b ≠ 0x45

theorem delimited_nil : Delimited [] :=
  nofun

theorem delimited_cons {b : UInt8} {rest : Bytes}
    (other : isDigit b = false ∧ b ≠ 0x2E ∧ b ≠ 0x65 ∧ b ≠ 0x45) : Delimited (b :: rest) := by
  intro c first
  cases first
  exact other

/-! ## Digits -/

theorem toNat_of_isDigit {c : Char} (digit : c.isDigit = true) : 48 ≤ c.toNat ∧ c.toNat ≤ 57 := by
  simpa [Char.isDigit, UInt32.le_iff_toNat_le] using digit

theorem isDigit_ofNat {c : Char} (digit : c.isDigit = true) :
    isDigit (UInt8.ofNat c.toNat) = true := by
  have range := toNat_of_isDigit digit
  simp [isDigit, UInt8.le_iff_toNat_le]
  omega

theorem digitValue_ofNat {c : Char} (digit : c.isDigit = true) :
    digitValue (UInt8.ofNat c.toNat) = c.toNat - '0'.toNat := by
  have range := toNat_of_isDigit digit
  simp [digitValue]
  omega

theorem le_ofDigitChars (cs : List Char) (n : Nat) : n ≤ Nat.ofDigitChars 10 cs n := by
  rw [Nat.ofDigitChars_eq_ofDigitChars_zero]
  have positive : 1 ≤ 10 ^ cs.length := Nat.one_le_pow _ _ (by omega)
  have := Nat.mul_le_mul_right n positive
  omega

/-- All digits are appended if the whole number is within the limit. -/
theorem appendDigits_append {limit n : Nat} {cs : List Char} {rest : Bytes}
    (digits : ∀ c ∈ cs, c.isDigit = true) (fits : Nat.ofDigitChars 10 cs n ≤ limit)
    (delimited : Delimited rest) (count : Nat) :
    appendDigits limit n count (encode cs ++ rest) =
      (Nat.ofDigitChars 10 cs n, count + cs.length, rest) := by
  induction cs generalizing n count with
  | nil =>
    cases rest with
    | nil => rfl
    | cons b rest => simp [appendDigits, (delimited b rfl).1]
  | cons c cs ih =>
    have digit := digits c (by simp)
    have ascii : c.toNat < 0x80 := by have := toNat_of_isDigit digit; omega
    rw [Nat.ofDigitChars_cons, Nat.mul_comm] at fits
    have within : n * 10 + (c.toNat - '0'.toNat) ≤ limit := Nat.le_trans (le_ofDigitChars cs _) fits
    rw [Text.encode_cons_ascii ascii, List.cons_append, appendDigits, digitValue_ofNat digit]
    simp only [isDigit_ofNat digit, within, decide_true, Bool.and_self, if_true]
    rw [ih (fun d member => digits d (List.mem_cons_of_mem c member)) fits, Nat.ofDigitChars_cons,
      Nat.mul_comm 10 n, List.length_cons, Nat.add_assoc, Nat.add_comm 1]

theorem head_toDigits_ne_zero {n : Nat} (positive : 0 < n) :
    (Nat.toDigits 10 n).head? ≠ some '0' := by
  have single : ∀ d < 10, 0 < d → [Nat.digitChar d].head? ≠ some '0' := by decide
  induction n using Nat.strongRecOn with
  | ind n ih =>
    by_cases small : n < 10
    · rw [Nat.toDigits_of_lt_base small]
      exact single n small positive
    · have front := ih (n / 10) (by omega) (by omega)
      rw [Nat.toDigits_of_base_le (by omega) (by omega)]
      cases text : Nat.toDigits 10 (n / 10) with
      | nil => exact absurd text Nat.toDigits_ne_nil
      | cons c cs => rwa [text] at front

/-! ## Integers -/

theorem afterInteger_of_delimited {rest : Bytes} (delimited : Delimited rest) (negative : Bool)
    (n : Nat) : afterInteger negative n 0 rest = wholeNumber negative n rest := by
  unfold afterInteger
  split
  case h_1 => exact absurd rfl (delimited _ rfl).2.1
  case h_2 => exact absurd rfl (delimited _ rfl).2.2.1
  case h_3 => exact absurd rfl (delimited _ rfl).2.2.2
  case h_4 => exact if_pos rfl

/-- Digits without a leading zero are read to their end. -/
theorem number_of_digits {c : Char} {cs : List Char} {rest : Bytes}
    (digits : ∀ d ∈ c :: cs, d.isDigit = true) (leading : c ≠ '0')
    (fits : Nat.ofDigitChars 10 (c :: cs) 0 ≤ greatestUnsigned) (delimited : Delimited rest)
    (negative : Bool) :
    number negative (encode (c :: cs) ++ rest) =
      wholeNumber negative (Nat.ofDigitChars 10 (c :: cs) 0) rest := by
  have digit := digits c (by simp)
  have tail : ∀ d ∈ cs, d.isDigit = true :=
    fun d member => digits d (List.mem_cons_of_mem c member)
  have range := toNat_of_isDigit digit
  have notZero : UInt8.ofNat c.toNat ≠ 0x30 := by
    intro same
    have code : c.toNat = 48 := by
      have bytes := congrArg UInt8.toNat same
      simp at bytes
      omega
    exact leading (Char.toNat_inj.mp code)
  have behind : rest.takeWhile isDigit = [] := by
    cases rest with
    | nil => rfl
    | cons b rest => simp [(delimited b rfl).1]
  rw [Nat.ofDigitChars_cons, Nat.mul_zero, Nat.zero_add] at fits ⊢
  rw [Text.encode_cons_ascii (by omega), List.cons_append]
  simp only [number, notZero, isDigit_ofNat digit, if_true, if_false, digitValue_ofNat digit,
    appendDigits_append tail fits delimited, behind, List.length_nil, List.drop_zero]
  exact afterInteger_of_delimited delimited negative _

/-- The digits of a number are read as the number. -/
theorem number_toDigits {n : Nat} {rest : Bytes} (fits : n ≤ greatestUnsigned)
    (delimited : Delimited rest) (negative : Bool) :
    number negative (encode (Nat.toDigits 10 n) ++ rest) = wholeNumber negative n rest := by
  by_cases zero : n = 0
  · subst zero
    have plain := afterInteger_of_delimited delimited negative 0
    rw [Nat.toDigits_zero, Text.encode_cons_ascii (by decide), Text.encode_nil, List.cons_append,
      List.nil_append]
    cases rest with
    | nil => simpa [number] using plain
    | cons b rest => simpa [number, (delimited b rfl).1] using plain
  · have digits : ∀ c ∈ Nat.toDigits 10 n, c.isDigit = true :=
      fun c member => Nat.isDigit_of_mem_toDigits (by omega) (by omega) member
    have value : Nat.ofDigitChars 10 (Nat.toDigits 10 n) 0 = n := Nat.ofDigitChars_ten_toDigits
    have leading := head_toDigits_ne_zero (Nat.pos_of_ne_zero zero)
    cases text : Nat.toDigits 10 n with
    | nil => exact absurd text Nat.toDigits_ne_nil
    | cons c cs =>
      rw [text] at digits value leading
      have read := number_of_digits digits (by simpa using leading) (by rwa [value]) delimited
        negative
      rwa [value] at read

end NotebookKernel.Json
