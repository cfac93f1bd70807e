import NotebookKernel.Proofs.Json.Canonical

/-! # Values printed again

A document whose numbers are all integers can be read, printed and read again without loss
(`parse_compact_canonical`).  Its numbers are integers just if they are written as such:
`scalar_eq_integer_iff` says which literals are read as an integer, and all other numbers are
doubles.  What is read is never nested deeper than a reader follows, so nothing but a double is in
the way of printing it.
-/

namespace NotebookKernel.Json

open NotebookKernel.Text (Bytes bytesOf encode)

/-! ## Digits -/

theorem exists_char_of_isDigit {b : UInt8} (digit : isDigit b = true) :
    ∃ c : Char, c.isDigit = true ∧ UInt8.ofNat c.toNat = b := by
  simp only [isDigit, Bool.and_eq_true, decide_eq_true_eq, UInt8.le_iff_toNat_le] at digit
  have lower : 48 ≤ b.toNat := digit.1
  have upper : b.toNat ≤ 57 := digit.2
  have isDigit : ∀ d < 10, (Nat.digitChar d).isDigit = true := by decide
  refine ⟨Nat.digitChar (b.toNat - 48), isDigit _ (by omega), UInt8.toNat_inj.mp ?_⟩
  rw [Nat.toNat_digitChar_of_lt_ten (by omega), Nat.add_sub_cancel' lower, UInt8.ofNat_toNat]

theorem encode_cons_digit {c : Char} (digit : c.isDigit = true) (cs : List Char) :
    encode (c :: cs) = UInt8.ofNat c.toNat :: encode cs := by
  have range := toNat_of_isDigit digit
  exact Text.encode_cons_ascii (by omega) cs

/-- What is appended to a number are digits, and they are as many as fit. -/
theorem appendDigits_cases {limit n count m taken : Nat} {text rest : Bytes}
    (read : appendDigits limit n count text = (m, taken, rest)) (small : n ≤ limit) :
    ∃ cs : List Char, (∀ c ∈ cs, c.isDigit = true) ∧ text = encode cs ++ rest ∧
      m = Nat.ofDigitChars 10 cs n ∧ m ≤ limit := by
  induction text generalizing n count with
  | nil =>
    cases read
    exact ⟨[], by simp, rfl, rfl, small⟩
  | cons b text ih =>
    rw [appendDigits] at read
    split at read
    next fits =>
      simp only [Bool.and_eq_true, decide_eq_true_eq] at fits
      obtain ⟨c, digit, rfl⟩ := exists_char_of_isDigit fits.1
      obtain ⟨cs, digits, parted, value, bound⟩ := ih read fits.2
      refine ⟨c :: cs, List.forall_mem_cons.mpr ⟨digit, digits⟩, ?_, ?_, bound⟩
      · rw [encode_cons_digit digit, parted, List.cons_append]
      · rw [value, digitValue_ofNat digit, Nat.ofDigitChars_cons, Nat.mul_comm]
    next =>
      cases read
      exact ⟨[], by simp, rfl, rfl, small⟩

theorem digit_range {c : Char} (digit : c.isDigit = true) :
    c.toNat - '0'.toNat < 10 ∧ (c ≠ '0' → 0 < c.toNat - '0'.toNat) := by
  have zero : '0'.toNat = 48 := rfl
  have range := toNat_of_isDigit digit
  refine ⟨by omega, fun other => ?_⟩
  have code : c.toNat ≠ 48 := fun same => other (Char.toNat_inj.mp same)
  omega

theorem toDigits_of_isDigit {c : Char} (digit : c.isDigit = true) :
    Nat.toDigits 10 (c.toNat - '0'.toNat) = [c] := by
  have small := (digit_range digit).1
  have zero : '0'.toNat = 48 := rfl
  have range := toNat_of_isDigit digit
  have same : Nat.digitChar (c.toNat - '0'.toNat) = c := by
    refine Char.toNat_inj.mp ?_
    rw [Nat.toNat_digitChar_of_lt_ten small]
    omega
  rw [Nat.toDigits_of_lt_base small, same]

/-- Digits behind those of a positive number are the last digits of the number that they make. -/
theorem toDigits_append {n : Nat} (positive : 0 < n) {cs : List Char}
    (digits : ∀ c ∈ cs, c.isDigit = true) :
    Nat.toDigits 10 n ++ cs = Nat.toDigits 10 (Nat.ofDigitChars 10 cs n) := by
  induction cs generalizing n with
  | nil => rw [List.append_nil, Nat.ofDigitChars_nil]
  | cons c cs ih =>
    have digit := digits c (by simp)
    have last := Nat.toDigits_append_toDigits (b := 10) (by omega) positive (digit_range digit).1
    rw [toDigits_of_isDigit digit] at last
    have digitsRest : ∀ d ∈ cs, d.isDigit = true :=
      fun d member => digits d (List.mem_cons_of_mem c member)
    rw [Nat.ofDigitChars_cons, ← ih (by omega) digitsRest, ← last, List.append_assoc,
      List.singleton_append]

/-! ## Integer literals -/

/-- What is read from the digits of a number once they have ended. -/
theorem afterInteger_eq_integer {negative : Bool} {n dropped : Nat} {text rest : Bytes} {i : Int}
    (read : afterInteger negative n dropped text = .ok (.integer i, rest)) :
    text = rest ∧ dropped = 0 ∧ (∀ b ∈ rest.head?, b ≠ 0x2E ∧ b ≠ 0x65 ∧ b ≠ 0x45) ∧
      i = (if negative then -(n : Int) else n) ∧ (negative = true → n ≠ 0 ∧ n ≤ Nat.pow 2 63) := by
  obtain ⟨_, same⟩ | ⟨noneDropped, other, read⟩ := afterInteger_cases read
  · cases same
  · obtain rfl := wholeNumber_rest read
    obtain ⟨_, same⟩ | ⟨same, small⟩ := wholeNumber_cases read
    · cases same
    · cases same
      exact ⟨rfl, noneDropped, other, rfl, small⟩

/-- An integer is read from the digits of its absolute value. -/
theorem number_eq_integer {negative : Bool} {text rest : Bytes} {i : Int}
    (read : number negative text = .ok (.integer i, rest)) :
    ∃ n ≤ greatestUnsigned, text = encode (Nat.toDigits 10 n) ++ rest ∧ Delimited rest ∧
      i = (if negative then -(n : Int) else n) ∧ (negative = true → n ≠ 0 ∧ n ≤ Nat.pow 2 63) := by
  cases text with
  | nil => cases read
  | cons b more =>
    rw [number.eq_def] at read
    simp only at read
    split at read
    next zero =>
      subst zero
      have single : encode (Nat.toDigits 10 0) = [0x30] := rfl
      cases more with
      | nil =>
        obtain ⟨rfl, -, -, value⟩ := afterInteger_eq_integer read
        exact ⟨0, Nat.zero_le _, by rw [single]; rfl, delimited_nil, value⟩
      | cons c more =>
        simp only at read
        split at read
        · cases read
        next notDigit =>
          obtain ⟨rfl, -, other, value⟩ := afterInteger_eq_integer read
          exact ⟨0, Nat.zero_le _, by rw [single]; rfl,
            delimited_cons ⟨by simpa using notDigit, other c rfl⟩, value⟩
    next notZero =>
      split at read
      next digit =>
        -- The first digit is not zero, and the others are read behind it one by one.
        obtain ⟨c, isDigit, rfl⟩ := exists_char_of_isDigit digit
        have leading : c ≠ '0' := by
          rintro rfl
          exact notZero rfl
        obtain ⟨below, positive⟩ := digit_range isDigit
        generalize appended : appendDigits greatestUnsigned _ 0 more = result at read
        obtain ⟨n, taken, behind⟩ := result
        rw [digitValue_ofNat isDigit] at appended
        have small : c.toNat - '0'.toNat ≤ greatestUnsigned :=
          Nat.le_trans (Nat.le_of_lt below) (by decide)
        obtain ⟨cs, digits, parted, number, bound⟩ := appendDigits_cases appended small
        obtain ⟨atRest, noneDropped, other, value⟩ := afterInteger_eq_integer read
        -- No digits are dropped, so that the reader stands behind the last one.
        have ended : behind.takeWhile Json.isDigit = [] := List.length_eq_zero_iff.mp noneDropped
        rw [ended, List.length_nil, List.drop_zero] at atRest
        subst atRest
        refine ⟨n, bound, ?_, fun b first => ⟨?_, other b first⟩, value⟩
        · rw [number, ← toDigits_append (positive leading) digits, toDigits_of_isDigit isDigit,
            List.singleton_append, encode_cons_digit isDigit, parted, List.cons_append]
        · obtain ⟨more, rfl⟩ := List.head?_eq_some_iff.mp first
          simpa [List.takeWhile_cons] using ended
      next => cases read

/-- Integers are read from their decimal digits, without a leading zero, a fraction or an exponent,
    behind a minus just if they are negative.  They all have 64 bits. -/
theorem scalar_eq_integer_iff {text rest : Bytes} {i : Int} :
    scalar text = .ok (.integer i, rest) ↔
      (-(Nat.pow 2 63 : Nat) ≤ i ∧ i < (Nat.pow 2 64 : Nat)) ∧
        text = encode (renderInteger i) ++ rest ∧ Delimited rest := by
  constructor
  · intro read
    have word {letters more : Bytes} {v : Value} (other : v ≠ .integer i) :
        (keyword letters more).map (fun result => (v, result.2)) ≠ .ok (.integer i, rest) := by
      intro read
      obtain ⟨_, _, same⟩ := map_eq_ok.mp read
      exact other (congrArg Prod.fst same)
    have greatest : greatestUnsigned = 18446744073709551615 := rfl
    have least : Nat.pow 2 63 = 9223372036854775808 := rfl
    have beyond : Nat.pow 2 64 = 18446744073709551616 := rfl
    -- A word is none, and neither is a string: only a minus or a digit begins an integer.
    unfold scalar at read
    split at read
    · cases read
    split at read
    · exact absurd read (word nofun)
    split at read
    · exact absurd read (word nofun)
    split at read
    · exact absurd read (word nofun)
    split at read
    next minus =>
      obtain ⟨n, -, rfl, delimited, rfl, negative⟩ := number_eq_integer read
      obtain ⟨notZero, small⟩ := negative rfl
      obtain ⟨n, rfl⟩ := Nat.exists_eq_succ_of_ne_zero notZero
      rw [minus, if_pos rfl]
      refine ⟨⟨by omega, by omega⟩, ?_, delimited⟩
      rw [← List.cons_append]
      exact congrArg (· ++ rest) (Text.encode_cons_ascii (c := '-') (by decide) _).symm
    split at read
    next digit =>
      obtain ⟨n, small, parted, delimited, value, -⟩ := number_eq_integer read
      obtain rfl : i = n := value
      exact ⟨⟨by omega, by omega⟩, parted, delimited⟩
    split at read
    next =>
      obtain ⟨_, _, same⟩ := map_eq_ok.mp read
      cases same
    next => cases read
  · rintro ⟨⟨lower, upper⟩, rfl, delimited⟩
    exact scalar_integer lower upper delimited

/-! ## Values without doubles -/

/-- No number in a value is a double. -/
inductive Value.Whole : Value → Prop
  | null : Whole .null
  | bool (b : Bool) : Whole (.bool b)
  | integer (i : Int) : Whole (.integer i)
  | string (s : String) : Whole (.string s)
  | array {vs : List Value} (items : ∀ v ∈ vs, Whole v) : Whole (.array vs)
  | object {ms : Members} (members : ∀ m ∈ ms, Whole m.2) : Whole (.object ms)

section Containers

variable {α : Type} {item : Reader α} {n : Nat} {first : Bool} {text rest : Bytes}

/-- Every item of an array has been read as one. -/
theorem mem_items {as : List α} (read : items item n first text = .ok (as, rest)) {a : α}
    (member : a ∈ as) : ∃ start behind, item start = .ok (a, behind) := by
  induction n generalizing first text as with
  | zero => cases read
  | succ n ih =>
    obtain ⟨rfl, _⟩ | ⟨start, _, behind, _, rfl, _, taken, taken'⟩ := items_cases read
    · cases member
    · obtain rfl | member := List.mem_cons.mp member
      · exact ⟨start, behind, taken⟩
      · exact ih taken' member

theorem mem_members {as : List (String × α)} (read : members item n first text = .ok (as, rest))
    {m : String × α} (member : m ∈ as) : ∃ start behind, item start = .ok (m.2, behind) := by
  induction n generalizing first text as with
  | zero => cases read
  | succ n ih =>
    obtain ⟨rfl, _⟩ | ⟨_, _, start, _, behind, _, rfl, _, _, taken, taken'⟩ := members_cases read
    · cases member
    · obtain rfl | member := List.mem_cons.mp member
      · exact ⟨start, behind, taken⟩
      · exact ih taken' member

end Containers

theorem exact_of_scalar {depth : Nat} {text rest : Bytes} {v : Value}
    (read : scalar text = .ok (v, rest)) (whole : v.Whole) : v.Exact depth := by
  cases text with
  | nil => cases read
  | cons b text =>
    obtain ⟨_, s, rfl, _⟩ | ⟨_, bare⟩ := scalar_cases read
    · exact .string s
    · cases whole with
      | null => exact .null
      | bool b => exact .bool b
      | integer i =>
        obtain ⟨⟨lower, upper⟩, _⟩ := scalar_eq_integer_iff.mp read
        exact .integer lower upper
      | _ => cases bare

/-- What a reader follows is not too deep for it, and what it reads as an integer fits. -/
theorem exact_of_value {depth : Nat} {text rest : Bytes} {v : Value}
    (read : value depth text = .ok (v, rest)) (whole : v.Whole) : v.Exact depth := by
  induction depth generalizing text rest v with
  | zero =>
    obtain ⟨_, _, _, ⟨_, _, _, impossible, _⟩ | ⟨_, _, _, impossible, _⟩ | ⟨_, _, read⟩⟩ :=
      value_cases read
    · cases impossible
    · cases impossible
    · exact exact_of_scalar read whole
  | succ depth ih =>
    obtain ⟨_, _, _, ⟨_, _, _, same, rfl, read⟩ | ⟨_, _, _, same, rfl, read⟩ | ⟨_, _, read⟩⟩ :=
      value_cases read
    · cases same
      cases whole with
      | array whole =>
        refine .array fun v member => ?_
        obtain ⟨_, _, taken⟩ := mem_items read member
        exact ih taken (whole v member)
    · cases same
      cases whole with
      | object whole =>
        refine .object fun m member => ?_
        obtain ⟨_, _, taken⟩ := mem_members read member
        exact ih taken (whole m member)
    · exact exact_of_scalar read whole

theorem value_of_readDocument {text : Bytes} {v : Value} (read : readDocument text = .ok v) :
    ∃ rest, value greatestDepth text = .ok (v, rest) := by
  unfold readDocument endOfDocument at read
  split at read
  · cases read
  next result taken =>
    split at read
    · cases read
      exact ⟨_, taken⟩
    · cases read

/-- A document without doubles can be printed in its canonical form, which is read unchanged. -/
theorem parse_compact_canonical {text : Bytes} {v : Value} (read : readDocument text = .ok v)
    (whole : v.Whole) : parse (bytesOf v.canonical.compact) = .ok v.canonical := by
  obtain ⟨_, taken⟩ := value_of_readDocument read
  rw [parse_compact (exact_of_value taken whole).canonical, canonical_canonical]

end NotebookKernel.Json
