import NotebookKernel.Json.Skip
import NotebookKernel.Proofs.Outcomes

/-! # Skipping scalars

Numbers, strings and words are skipped up to the place where a reader would have stopped
(`skipScalar_of_scalar`), and skipping one takes at least one byte (`skipScalar_suffix`).  Only
the reader looks at what a number or an escape amounts to.
-/

namespace NotebookKernel.Json

open NotebookKernel.Text (Bytes)

/-! ## Numbers -/

theorem drop_takeWhile (p : UInt8 → Bool) (text : Bytes) :
    text.drop (text.takeWhile p).length = text.dropWhile p := by
  induction text with
  | nil => rfl
  | cons b text ih =>
    cases taken : p b with
    | true => simp [taken, ih]
    | false => simp [taken]

theorem dropWhile_appendDigits (limit n count : Nat) (text : Bytes) :
    (appendDigits limit n count text).2.2.dropWhile isDigit = text.dropWhile isDigit := by
  induction text generalizing n count with
  | nil => rfl
  | cons b rest ih =>
    rw [appendDigits]
    split
    next fits =>
      have digit : isDigit b = true := (Bool.and_eq_true_iff.mp fits).1
      rw [ih, List.dropWhile_cons_of_pos digit]
    next => rfl

theorem finishDouble_rest {negative : Bool} {significand : Nat} {exponent : Int} {text rest : Bytes}
    {v : Value} (read : finishDouble negative significand exponent text = .ok (v, rest)) :
    rest = text := by
  unfold finishDouble at read
  split at read
  · cases read
    rfl
  · cases read

theorem wholeNumber_rest {negative : Bool} {significand : Nat} {text rest : Bytes} {v : Value}
    (read : wholeNumber negative significand text = .ok (v, rest)) : rest = text := by
  unfold wholeNumber at read
  split at read
  · cases read
    rfl
  · split at read
    · exact finishDouble_rest read
    · cases read
      rfl


theorem skipExponent_of_exponentPart {negative : Bool} {significand : Nat} {exponent : Int}
    {text rest : Bytes} {v : Value}
    (read : exponentPart negative significand exponent text = .ok (v, rest)) :
    skipExponent text = .ok rest := by
  unfold exponentPart at read
  split at read
  next minus digits signed =>
    cases digits with
    | nil => cases read
    | cons d digits =>
      -- A sign is passed over in the same way.
      have unsigned : skipExponent text =
          if isDigit d then .ok (digits.dropWhile isDigit) else failHere .invalidNumber digits := by
        split at signed
        · cases signed
          rfl
        · cases signed
          rfl
        · cases signed
          simp only [skipExponent]
      simp only at read
      rw [unsigned]
      split at read
      next digit =>
        rw [if_pos digit]
        have behind := dropWhile_appendDigits greatestExponentText (digitValue d) 0 digits
        generalize appendDigits greatestExponentText (digitValue d) 0 digits = appended at behind read
        obtain ⟨e, count, left⟩ := appended
        simp only at behind read
        rw [← behind]
        cases left with
        | nil => rw [finishDouble_rest read]; rfl
        | cons b more =>
          simp only at read
          split at read
          next another =>
            rw [List.dropWhile_cons_of_pos another]
            split at read
            · cases read
            · cases read
              rfl
          next last =>
            rw [List.dropWhile_cons_of_neg last, finishDouble_rest read]
      next => cases read

theorem skipOptionalExponent_of_optionalExponent {negative : Bool} {significand : Nat}
    {exponent : Int} {text rest : Bytes} {v : Value}
    (read : optionalExponent negative significand exponent text = .ok (v, rest)) :
    skipOptionalExponent text = .ok rest := by
  unfold optionalExponent at read
  split at read
  · exact skipExponent_of_exponentPart read
  · exact skipExponent_of_exponentPart read
  · simp only [finishDouble_rest read, skipOptionalExponent]

theorem skipFraction_of_fractionPart {negative : Bool} {significand : Nat} {exponent : Int}
    {text rest : Bytes} {v : Value}
    (read : fractionPart negative significand exponent text = .ok (v, rest)) :
    skipFraction text = .ok rest := by
  cases text with
  | nil => cases read
  | cons b text =>
    simp only [fractionPart] at read
    rw [skipFraction]
    split at read
    next digit =>
      have behind := skipOptionalExponent_of_optionalExponent read
      rw [dropWhile_appendDigits, List.dropWhile_cons_of_pos digit] at behind
      rw [if_pos digit, behind]
    next => cases read

theorem skipAfterInteger_of_afterInteger {negative : Bool} {significand dropped : Nat}
    {text rest : Bytes} {v : Value}
    (read : afterInteger negative significand dropped text = .ok (v, rest)) :
    skipAfterInteger text = .ok rest := by
  unfold afterInteger at read
  split at read
  · exact skipFraction_of_fractionPart read
  · exact skipExponent_of_exponentPart read
  · exact skipExponent_of_exponentPart read
  · have whole : rest = text := by
      split at read
      · exact wholeNumber_rest read
      · exact finishDouble_rest read
    simp only [whole, skipAfterInteger, skipOptionalExponent]

theorem skipNumber_of_number {negative : Bool} {text rest : Bytes} {v : Value}
    (read : number negative text = .ok (v, rest)) : skipNumber text = .ok rest := by
  cases text with
  | nil => cases read
  | cons b text =>
    simp only [number.eq_def] at read
    simp only [skipNumber.eq_def]
    split at read
    next zero =>
      rw [if_pos zero]
      cases text with
      | nil => exact skipAfterInteger_of_afterInteger read
      | cons c text =>
        simp only at read ⊢
        split at read
        · cases read
        next plain =>
          rw [if_neg plain]
          exact skipAfterInteger_of_afterInteger read
    next notZero =>
      rw [if_neg notZero]
      split at read
      next digit =>
        have behind := skipAfterInteger_of_afterInteger read
        rw [drop_takeWhile, dropWhile_appendDigits] at behind
        rw [if_pos digit, behind]
      next => cases read

/-! ## Strings -/

theorem skipString_plain {b : UInt8} (notQuote : b ≠ 0x22) (notBackslash : b ≠ 0x5C)
    (notControl : ¬ b < 0x20) (rest : Bytes) : skipString (b :: rest) = skipString rest := by
  rw [skipString.eq_def]
  simp only [notQuote, notBackslash, notControl, if_false]

theorem skipString_escape {e b : UInt8} (short : escapedByte e = some b) (notHex : e ≠ 0x75)
    (rest : Bytes) : skipString (0x5C :: e :: rest) = skipString rest := by
  rw [skipString.eq_def]
  simp [notHex, short]

theorem skipString_hex {h₁ h₂ h₃ h₄ : UInt8} {n : Nat} (hex : hexValue4 h₁ h₂ h₃ h₄ = some n)
    (rest : Bytes) : skipString (0x5C :: 0x75 :: h₁ :: h₂ :: h₃ :: h₄ :: rest) = skipString rest := by
  rw [skipString.eq_def]
  simp [hex]

theorem skipString_of_stringBytes {reversed text bytes rest : Bytes}
    (read : stringBytes reversed text = .ok (bytes, rest)) : skipString text = .ok rest := by
  fun_induction stringBytes reversed text with
  | case2 reversed more =>
    cases read
    rw [skipString.eq_def]
    rfl
  | case11 reversed h₁ h₂ h₃ h₄ n hex _ _ slash isSlash u isHex l₁ l₂ l₃ l₄ more m hex' _ _ ih =>
    -- Each half of a surrogate pair is an escape of its own.
    rw [skipString_hex hex, Decidable.not_not.mp isSlash, Decidable.not_not.mp isHex,
      skipString_hex hex']
    exact ih read
  | case14 reversed h₁ h₂ h₃ h₄ more n hex _ _ _ ih =>
    rw [skipString_hex hex]
    exact ih read
  | case16 reversed e more notHex b short _ ih =>
    rw [skipString_escape short notHex]
    exact ih read
  | case19 reversed b more notQuote notBackslash notControl ih =>
    rw [skipString_plain notQuote notBackslash notControl]
    exact ih read
  | _ => cases read

theorem skipString_of_stringBody {text rest : Bytes} {s : String}
    (read : stringBody text = .ok (s, rest)) : skipString text = .ok rest := by
  unfold stringBody at read
  split at read
  · cases read
  next bytes more collected =>
    split at read
    · cases read
      exact skipString_of_stringBytes collected
    · cases read

/-! ## Scalars -/

theorem skipScalar_of_scalar {text rest : Bytes} {v : Value} (read : scalar text = .ok (v, rest)) :
    skipScalar text = .ok rest := by
  have word {letters more : Bytes} {w : Value}
      (found : (keyword letters more).map (fun result => (w, result.2)) = .ok (v, rest)) :
      (keyword letters more).map Prod.snd = .ok rest := by
    obtain ⟨_, taken, same⟩ := map_eq_ok.mp found
    cases same
    exact map_eq_ok.mpr ⟨_, taken, rfl⟩
  cases text with
  | nil => cases read
  | cons b text =>
    rw [scalar] at read
    rw [skipScalar]
    by_cases null : b = 0x6E
    · rw [if_pos null] at read ⊢
      exact word read
    rw [if_neg null] at read ⊢
    by_cases true_ : b = 0x74
    · rw [if_pos true_] at read ⊢
      exact word read
    rw [if_neg true_] at read ⊢
    by_cases false_ : b = 0x66
    · rw [if_pos false_] at read ⊢
      exact word read
    rw [if_neg false_] at read ⊢
    by_cases minus : b = 0x2D
    · rw [if_pos minus] at read ⊢
      exact skipNumber_of_number read
    rw [if_neg minus] at read ⊢
    by_cases digit : isDigit b = true
    · rw [if_pos digit] at read ⊢
      exact skipNumber_of_number read
    rw [if_neg digit] at read ⊢
    by_cases quote : b = 0x22
    · rw [if_pos quote] at read ⊢
      obtain ⟨_, body, same⟩ := map_eq_ok.mp read
      cases same
      exact skipString_of_stringBody body
    · rw [if_neg quote] at read
      cases read

/-! ## Skipping makes progress -/

theorem keyword_suffix {letters text rest : Bytes} (read : keyword letters text = .ok ((), rest)) :
    rest <:+ text := by
  induction letters generalizing text with
  | nil =>
    cases read
    exact List.suffix_rfl
  | cons k letters ih =>
    cases text with
    | nil => cases read
    | cons b text =>
      rw [keyword] at read
      split at read
      · exact (ih read).trans (List.suffix_cons b text)
      · cases read

theorem skipExponent_suffix {text rest : Bytes} (skipped : skipExponent text = .ok rest) :
    rest <:+ text := by
  revert skipped
  fun_cases skipExponent text with
  | case1 | case3 => exact fun failed => nomatch failed
  | case2 digits d more same =>
    intro skipped
    cases skipped
    have behind : digits <:+ text := by
      simp only [digits]
      split
      · exact List.suffix_cons _ _
      · exact List.suffix_cons _ _
      · exact List.suffix_rfl
    rw [same] at behind
    exact (List.dropWhile_suffix _).trans ((List.suffix_cons d more).trans behind)

theorem skipOptionalExponent_suffix {text rest : Bytes}
    (skipped : skipOptionalExponent text = .ok rest) : rest <:+ text := by
  unfold skipOptionalExponent at skipped
  split at skipped
  · exact (skipExponent_suffix skipped).trans (List.suffix_cons _ _)
  · exact (skipExponent_suffix skipped).trans (List.suffix_cons _ _)
  · cases skipped
    exact List.suffix_rfl

theorem skipFraction_suffix {text rest : Bytes} (skipped : skipFraction text = .ok rest) :
    rest <:+ text := by
  cases text with
  | nil => cases skipped
  | cons b text =>
    rw [skipFraction] at skipped
    split at skipped
    · exact (skipOptionalExponent_suffix skipped).trans
        ((List.dropWhile_suffix _).trans (List.suffix_cons b text))
    · cases skipped

theorem skipAfterInteger_suffix {text rest : Bytes} (skipped : skipAfterInteger text = .ok rest) :
    rest <:+ text := by
  unfold skipAfterInteger at skipped
  split at skipped
  · exact (skipFraction_suffix skipped).trans (List.suffix_cons _ _)
  · exact skipOptionalExponent_suffix skipped

theorem skipNumber_suffix {text rest : Bytes} (skipped : skipNumber text = .ok rest) :
    rest <:+ text.tail := by
  unfold skipNumber at skipped
  split at skipped
  · cases skipped
  next b text =>
    split at skipped
    · split at skipped
      · cases skipped
        exact List.suffix_rfl
      · split at skipped
        · cases skipped
        · exact skipAfterInteger_suffix skipped
    · split at skipped
      · exact (skipAfterInteger_suffix skipped).trans (List.dropWhile_suffix _)
      · cases skipped

theorem skipString_suffix {text rest : Bytes} (skipped : skipString text = .ok rest) :
    rest <:+ text := by
  fun_induction skipString text with
  | case2 more =>
    cases skipped
    exact List.suffix_cons _ _
  | case5 h₁ h₂ h₃ h₄ more n hex _ ih =>
    exact (ih skipped).trans (List.suffix_append [_, _, _, _, _, _] more)
  | case7 e more notHex b short _ ih => exact (ih skipped).trans (List.suffix_append [_, _] more)
  | case10 b more _ _ _ ih => exact (ih skipped).trans (List.suffix_cons b more)
  | _ => cases skipped

/-- A scalar takes at least one byte. -/
theorem skipScalar_suffix {text rest : Bytes} (skipped : skipScalar text = .ok rest) :
    ∃ b more, text = b :: more ∧ rest <:+ more := by
  have word {letters more : Bytes} (found : (keyword letters more).map Prod.snd = .ok rest) :
      rest <:+ more := by
    obtain ⟨_, read, same⟩ := map_eq_ok.mp found
    cases same
    exact keyword_suffix read
  cases text with
  | nil => cases skipped
  | cons b more =>
    refine ⟨b, more, rfl, ?_⟩
    rw [skipScalar] at skipped
    split at skipped
    · exact word skipped
    split at skipped
    · exact word skipped
    split at skipped
    · exact word skipped
    split at skipped
    · exact (skipNumber_suffix skipped).trans (List.tail_suffix more)
    split at skipped
    · exact skipNumber_suffix skipped
    split at skipped
    · exact skipString_suffix skipped
    · cases skipped

/-! ## What a scalar can be -/

/-- Words and numbers. -/
def Value.isBare : Value → Bool
  | .null | .bool _ | .integer _ | .double _ => true
  | .string _ | .array _ | .object _ => false

theorem double_of_finishDouble {negative : Bool} {significand : Nat} {exponent : Int}
    {text rest : Bytes} {v : Value}
    (read : finishDouble negative significand exponent text = .ok (v, rest)) :
    ∃ x, v = .double x := by
  unfold finishDouble at read
  split at read <;> cases read
  exact ⟨_, rfl⟩

theorem double_of_exponentPart {negative : Bool} {significand : Nat} {exponent : Int}
    {text rest : Bytes} {v : Value}
    (read : exponentPart negative significand exponent text = .ok (v, rest)) :
    ∃ x, v = .double x := by
  unfold exponentPart at read
  split at read
  next minus digits _ =>
    cases digits with
    | nil => cases read
    | cons d digits =>
      simp only at read
      split at read
      · split at read
        · exact double_of_finishDouble read
        · split at read
          · split at read <;> cases read
            exact ⟨_, rfl⟩
          · exact double_of_finishDouble read
      · cases read

theorem double_of_optionalExponent {negative : Bool} {significand : Nat} {exponent : Int}
    {text rest : Bytes} {v : Value}
    (read : optionalExponent negative significand exponent text = .ok (v, rest)) :
    ∃ x, v = .double x := by
  unfold optionalExponent at read
  split at read
  · exact double_of_exponentPart read
  · exact double_of_exponentPart read
  · exact double_of_finishDouble read

theorem double_of_fractionPart {negative : Bool} {significand : Nat} {exponent : Int}
    {text rest : Bytes} {v : Value}
    (read : fractionPart negative significand exponent text = .ok (v, rest)) :
    ∃ x, v = .double x := by
  unfold fractionPart at read
  split at read
  · cases read
  split at read
  · exact double_of_optionalExponent read
  · cases read

/-- Only a number without a fraction and an exponent can be an integer. -/
theorem afterInteger_cases {negative : Bool} {significand dropped : Nat} {text rest : Bytes}
    {v : Value} (read : afterInteger negative significand dropped text = .ok (v, rest)) :
    (∃ x, v = .double x) ∨
      dropped = 0 ∧ (∀ b ∈ text.head?, b ≠ 0x2E ∧ b ≠ 0x65 ∧ b ≠ 0x45) ∧
        wholeNumber negative significand text = .ok (v, rest) := by
  unfold afterInteger at read
  split at read
  · exact .inl (double_of_fractionPart read)
  · exact .inl (double_of_exponentPart read)
  · exact .inl (double_of_exponentPart read)
  next noPoint noMark noCapital =>
    split at read
    next whole =>
      refine .inr ⟨whole, fun b first => ?_, read⟩
      obtain ⟨more, rfl⟩ := List.head?_eq_some_iff.mp first
      refine ⟨?_, ?_, ?_⟩
      · rintro rfl
        exact noPoint more rfl
      · rintro rfl
        exact noMark more rfl
      · rintro rfl
        exact noCapital more rfl
    next => exact .inl (double_of_finishDouble read)

theorem wholeNumber_cases {negative : Bool} {significand : Nat} {text rest : Bytes} {v : Value}
    (read : wholeNumber negative significand text = .ok (v, rest)) :
    (∃ x, v = .double x) ∨
      v = .integer (if negative then -significand else significand) ∧
        (negative = true → significand ≠ 0 ∧ significand ≤ Nat.pow 2 63) := by
  unfold wholeNumber at read
  split at read
  next positive =>
    cases read
    simp only [Bool.not_eq_true'] at positive
    simp [positive]
  next =>
    split at read
    · exact .inl (double_of_finishDouble read)
    next small =>
      cases read
      simp_all

theorem isBare_afterInteger {negative : Bool} {significand dropped : Nat} {text rest : Bytes}
    {v : Value} (read : afterInteger negative significand dropped text = .ok (v, rest)) :
    v.isBare := by
  obtain ⟨_, rfl⟩ | ⟨-, -, whole⟩ := afterInteger_cases read
  · rfl
  · obtain ⟨_, rfl⟩ | ⟨rfl, -⟩ := wholeNumber_cases whole <;> rfl

theorem isBare_number {negative : Bool} {text rest : Bytes} {v : Value}
    (read : number negative text = .ok (v, rest)) : v.isBare := by
  unfold number at read
  split at read
  · cases read
  split at read
  · split at read
    · exact isBare_afterInteger read
    · split at read
      · cases read
      · exact isBare_afterInteger read
  · split at read
    · exact isBare_afterInteger read
    · cases read

/-- A scalar is a string behind a quote, and a word or a number elsewhere. -/
theorem scalar_cases {b : UInt8} {text rest : Bytes} {v : Value}
    (read : scalar (b :: text) = .ok (v, rest)) :
    (b = 0x22 ∧ ∃ s, v = .string s ∧ stringBody text = .ok (s, rest)) ∨
      (b ≠ 0x22 ∧ v.isBare = true) := by
  have word {letters : Bytes} {w : Value} (bare : w.isBare = true)
      (found : (keyword letters text).map (fun result => (w, result.2)) = .ok (v, rest)) :
      v.isBare = true := by
    obtain ⟨_, _, same⟩ := map_eq_ok.mp found
    cases same
    exact bare
  rw [scalar] at read
  split at read
  next first => exact .inr ⟨first ▸ by decide, word rfl read⟩
  split at read
  next first => exact .inr ⟨first ▸ by decide, word rfl read⟩
  split at read
  next first => exact .inr ⟨first ▸ by decide, word rfl read⟩
  split at read
  next first => exact .inr ⟨first ▸ by decide, isBare_number read⟩
  split at read
  next digit =>
    refine .inr ⟨?_, isBare_number read⟩
    rintro rfl
    cases digit
  split at read
  next quote =>
    obtain ⟨⟨s, _⟩, body, same⟩ := map_eq_ok.mp read
    cases same
    exact .inl ⟨quote, s, rfl, body⟩
  next => cases read

end NotebookKernel.Json
