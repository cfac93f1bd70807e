import NotebookKernel.Text.Utf8

/-! # UTF-8 there and back

`decode` undoes `encode` and accepts nothing else (`decode_eq_ok_iff`).  A character takes one
to four bytes, and each length has its own range of first bytes, so a decoder always knows what
it is reading.
-/

namespace NotebookKernel.Text

/-! ## Writing -/

@[simp] theorem encode_nil : encode [] = [] := rfl

theorem encode_cons (c : Char) (cs : List Char) :
    encode (c :: cs) = String.utf8EncodeChar c ++ encode cs := by
  simp [encode]

@[simp] theorem encode_append (cs ds : List Char) : encode (cs ++ ds) = encode cs ++ encode ds := by
  simp [encode]

/-- The characters below `0x80` are single bytes. -/
theorem utf8EncodeChar_ascii {c : Char} (ascii : c.toNat < 0x80) :
    String.utf8EncodeChar c = [UInt8.ofNat c.toNat] := by
  have small : c.toNat ≤ 127 := by omega
  simp only [String.utf8EncodeChar, Char.toNat_val, small, if_true]

theorem encode_cons_ascii {c : Char} (ascii : c.toNat < 0x80) (cs : List Char) :
    encode (c :: cs) = UInt8.ofNat c.toNat :: encode cs := by
  rw [encode_cons, utf8EncodeChar_ascii ascii, List.cons_append, List.nil_append]

theorem encode_enclosed {first last : Char} (asciiFirst : first.toNat < 0x80)
    (asciiLast : last.toNat < 0x80) (cs : List Char) (rest : Bytes) :
    encode (first :: cs ++ [last]) ++ rest =
      UInt8.ofNat first.toNat :: (encode cs ++ UInt8.ofNat last.toNat :: rest) := by
  rw [List.cons_append, encode_cons_ascii asciiFirst, encode_append, encode_cons_ascii asciiLast,
    encode_nil, List.cons_append, List.append_assoc, List.cons_append, List.nil_append]

/-- The bytes of a character say whether it is below `0x80`: others have none down there. -/
theorem mem_utf8EncodeChar {c : Char} {b : UInt8} (member : b ∈ String.utf8EncodeChar c) :
    0x80 ≤ b.toNat ∨ b.toNat = c.toNat := by
  by_cases ascii : c.toNat < 0x80
  · rw [utf8EncodeChar_ascii ascii, List.mem_singleton] at member
    right
    rw [member, UInt8.toNat_ofNat']
    omega
  · left
    have above : ¬ c.toNat ≤ 127 := by omega
    simp only [String.utf8EncodeChar, Char.toNat_val, above, if_false] at member
    split at member
    · simp at member
      obtain rfl | rfl := member <;> simp <;> omega
    · split at member
      · simp at member
        obtain rfl | rfl | rfl := member <;> simp <;> omega
      · simp at member
        obtain rfl | rfl | rfl | rfl := member <;> simp <;> omega

theorem mem_encode {cs : List Char} {b : UInt8} (member : b ∈ encode cs) :
    0x80 ≤ b.toNat ∨ ∃ c ∈ cs, b.toNat = c.toNat := by
  obtain ⟨c, inside, member⟩ := List.mem_flatMap.mp member
  obtain high | same := mem_utf8EncodeChar member
  · exact .inl high
  · exact .inr ⟨c, inside, same⟩

/-! ## Reading what has been written -/

theorem isContinuation_ofNat (n : Nat) : isContinuation (UInt8.ofNat (n % 64 + 128)) = true := by
  simp [isContinuation, UInt8.le_iff_toNat_le]
  omega

theorem payload_ofNat (n : Nat) : payload (UInt8.ofNat (n % 64 + 128)) = n % 64 := by
  simp [payload]
  omega

theorem decodeFrom_one {n : Nat} (small : n ≤ 0x7F) (at_ : Nat) (rest : Bytes) :
    decodeFrom at_ (UInt8.ofNat n :: rest) =
      (decodeFrom (at_ + 1) rest).map (Char.ofNat n :: ·) := by
  have first : UInt8.ofNat n < 0x80 := by
    simp [UInt8.lt_iff_toNat_lt]; omega
  have bits : (UInt8.ofNat n).toNat = n := by
    simp; omega
  rw [decodeFrom.eq_def]
  simp only [first, bits, if_true]

theorem decodeFrom_two {n : Nat} (lower : 0x80 ≤ n) (upper : n < 0x800) (at_ : Nat) (rest : Bytes) :
    decodeFrom at_ (UInt8.ofNat (n / 64 % 32 + 192) :: UInt8.ofNat (n % 64 + 128) :: rest) =
      (decodeFrom (at_ + 2) rest).map (Char.ofNat n :: ·) := by
  have large : ¬ UInt8.ofNat (n / 64 % 32 + 192) < 0x80 := by
    simp [UInt8.lt_iff_toNat_lt]; omega
  have first : (0xC2 ≤ UInt8.ofNat (n / 64 % 32 + 192) &&
      UInt8.ofNat (n / 64 % 32 + 192) ≤ 0xDF) = true := by
    simp [UInt8.le_iff_toNat_le]; omega
  have bits : (UInt8.ofNat (n / 64 % 32 + 192)).toNat % 32 * 64 + n % 64 = n := by
    simp; omega
  rw [decodeFrom.eq_def]
  simp only [large, first, isContinuation_ofNat, payload_ofNat, bits, if_true, if_false]

theorem decodeFrom_three {n : Nat} (lower : 0x800 ≤ n) (upper : n ≤ 0xFFFF)
    (valid : n < 0xD800 ∨ 0xDFFF < n) (at_ : Nat) (rest : Bytes) :
    decodeFrom at_ (UInt8.ofNat (n / 4096 % 16 + 224) :: UInt8.ofNat (n / 64 % 64 + 128) ::
        UInt8.ofNat (n % 64 + 128) :: rest) =
      (decodeFrom (at_ + 3) rest).map (Char.ofNat n :: ·) := by
  have large : ¬ UInt8.ofNat (n / 4096 % 16 + 224) < 0x80 := by
    simp [UInt8.lt_iff_toNat_lt]; omega
  have notTwo : ¬ (0xC2 ≤ UInt8.ofNat (n / 4096 % 16 + 224) &&
      UInt8.ofNat (n / 4096 % 16 + 224) ≤ 0xDF) = true := by
    simp [UInt8.le_iff_toNat_le]; omega
  have first : (0xE0 ≤ UInt8.ofNat (n / 4096 % 16 + 224) &&
      UInt8.ofNat (n / 4096 % 16 + 224) ≤ 0xEF) = true := by
    simp [UInt8.le_iff_toNat_le]; omega
  -- The two first bytes that restrict the second one begin at the lower end of the range and at
  -- the surrogates.
  have second : isSecondOfThree (UInt8.ofNat (n / 4096 % 16 + 224))
      (UInt8.ofNat (n / 64 % 64 + 128)) = true := by
    unfold isSecondOfThree
    split
    · simp_all [← UInt8.toNat_inj, UInt8.le_iff_toNat_le]; omega
    · split
      · simp_all [← UInt8.toNat_inj, UInt8.le_iff_toNat_le]; omega
      · exact isContinuation_ofNat (n / 64)
  have bits : ((UInt8.ofNat (n / 4096 % 16 + 224)).toNat % 16 * 64 + n / 64 % 64) * 64 +
      n % 64 = n := by
    simp; omega
  rw [decodeFrom.eq_def]
  simp only [large, notTwo, first, second, isContinuation_ofNat, payload_ofNat, bits,
    Bool.false_eq_true, if_true, if_false]

theorem decodeFrom_four {n : Nat} (lower : 0x10000 ≤ n) (upper : n < 0x110000) (at_ : Nat)
    (rest : Bytes) :
    decodeFrom at_ (UInt8.ofNat (n / 262144 % 8 + 240) :: UInt8.ofNat (n / 4096 % 64 + 128) ::
        UInt8.ofNat (n / 64 % 64 + 128) :: UInt8.ofNat (n % 64 + 128) :: rest) =
      (decodeFrom (at_ + 4) rest).map (Char.ofNat n :: ·) := by
  have large : ¬ UInt8.ofNat (n / 262144 % 8 + 240) < 0x80 := by
    simp [UInt8.lt_iff_toNat_lt]; omega
  have notTwo : ¬ (0xC2 ≤ UInt8.ofNat (n / 262144 % 8 + 240) &&
      UInt8.ofNat (n / 262144 % 8 + 240) ≤ 0xDF) = true := by
    simp [UInt8.le_iff_toNat_le]; omega
  have notThree : ¬ (0xE0 ≤ UInt8.ofNat (n / 262144 % 8 + 240) &&
      UInt8.ofNat (n / 262144 % 8 + 240) ≤ 0xEF) = true := by
    simp [UInt8.le_iff_toNat_le]; omega
  have first : (0xF0 ≤ UInt8.ofNat (n / 262144 % 8 + 240) &&
      UInt8.ofNat (n / 262144 % 8 + 240) ≤ 0xF4) = true := by
    simp [UInt8.le_iff_toNat_le]; omega
  have second : isSecondOfFour (UInt8.ofNat (n / 262144 % 8 + 240))
      (UInt8.ofNat (n / 4096 % 64 + 128)) = true := by
    unfold isSecondOfFour
    split
    · simp_all [← UInt8.toNat_inj, UInt8.le_iff_toNat_le]; omega
    · split
      · simp_all [← UInt8.toNat_inj, UInt8.le_iff_toNat_le]; omega
      · exact isContinuation_ofNat (n / 4096)
  have bits : (((UInt8.ofNat (n / 262144 % 8 + 240)).toNat % 8 * 64 + n / 4096 % 64) * 64 +
      n / 64 % 64) * 64 + n % 64 = n := by
    simp; omega
  rw [decodeFrom.eq_def]
  simp only [large, notTwo, notThree, first, second, isContinuation_ofNat, payload_ofNat, bits,
    Bool.false_eq_true, if_true, if_false]

/-- One character is read back, whatever follows it. -/
theorem decodeFrom_encodeChar (at_ : Nat) (c : Char) (rest : Bytes) :
    ∃ next, decodeFrom at_ (String.utf8EncodeChar c ++ rest) =
      (decodeFrom next rest).map (c :: ·) := by
  have same : Char.ofNat c.toNat = c := Char.ofNat_toNat c
  have valid : c.toNat < 0xD800 ∨ 0xDFFF < c.toNat ∧ c.toNat < 0x110000 := c.valid
  simp only [String.utf8EncodeChar, Char.toNat_val]
  split
  case isTrue small => exact ⟨_, same ▸ decodeFrom_one small at_ rest⟩
  case isFalse above =>
    split
    case isTrue small => exact ⟨_, same ▸ decodeFrom_two (by omega) (by omega) at_ rest⟩
    case isFalse above =>
      split
      case isTrue small => exact ⟨_, same ▸ decodeFrom_three (by omega) small (by omega) at_ rest⟩
      case isFalse above => exact ⟨_, same ▸ decodeFrom_four (by omega) (by omega) at_ rest⟩

theorem decodeFrom_encode (at_ : Nat) (cs : List Char) : decodeFrom at_ (encode cs) = .ok cs := by
  induction cs generalizing at_ with
  | nil => rfl
  | cons c cs ih =>
    obtain ⟨next, read⟩ := decodeFrom_encodeChar at_ c (encode cs)
    rw [encode_cons, read, ih next]
    rfl

/-- Decoding undoes encoding. -/
@[simp] theorem decode_encode (cs : List Char) : decode (encode cs) = .ok cs :=
  decodeFrom_encode 0 cs

/-! ## Writing what has been read -/

theorem toNat_charOfNat {n : Nat} (valid : n < 0xD800 ∨ 0xDFFF < n ∧ n < 0x110000) :
    (Char.ofNat n).toNat = n := by
  have isValid : n.isValidChar := valid
  rw [Char.ofNat, dif_pos isValid]
  rfl

theorem isContinuation_iff {b : UInt8} :
    isContinuation b = true ↔ 0x80 ≤ b.toNat ∧ b.toNat ≤ 0xBF := by
  simp [isContinuation, UInt8.le_iff_toNat_le]

theorem between_iff {a low high : UInt8} :
    (low ≤ a && a ≤ high) = true ↔ low.toNat ≤ a.toNat ∧ a.toNat ≤ high.toNat := by
  simp [UInt8.le_iff_toNat_le]

theorem encodeChar_one {a : UInt8} (first : a < 0x80) :
    String.utf8EncodeChar (Char.ofNat a.toNat) = [a] := by
  have small : a.toNat < 128 := UInt8.lt_iff_toNat_lt.mp first
  have code : (Char.ofNat a.toNat).toNat = a.toNat := toNat_charOfNat (by omega)
  rw [utf8EncodeChar_ascii (by omega), code, UInt8.ofNat_toNat]

theorem encodeChar_two {a b : UInt8} (first : (0xC2 ≤ a && a ≤ 0xDF) = true)
    (second : isContinuation b = true) :
    String.utf8EncodeChar (Char.ofNat (a.toNat % 32 * 64 + payload b)) = [a, b] := by
  obtain ⟨lower, upper⟩ : 194 ≤ a.toNat ∧ a.toNat ≤ 223 := between_iff.mp first
  obtain ⟨lower₂, upper₂⟩ := isContinuation_iff.mp second
  simp only [payload]
  generalize point : a.toNat % 32 * 64 + b.toNat % 64 = n
  have code : (Char.ofNat n).toNat = n := toNat_charOfNat (by omega)
  have notOne : ¬ n ≤ 127 := by omega
  have two : n ≤ 2047 := by omega
  simp only [String.utf8EncodeChar, Char.toNat_val, code, notOne, two, if_true, if_false]
  simp [← UInt8.toNat_inj]
  omega

theorem isSecondOfThree_bounds {a b : UInt8} (second : isSecondOfThree a b = true) :
    0x80 ≤ b.toNat ∧ b.toNat ≤ 0xBF ∧ (a.toNat = 0xE0 → 0xA0 ≤ b.toNat) ∧
      (a.toNat = 0xED → b.toNat ≤ 0x9F) := by
  unfold isSecondOfThree at second
  split at second
  case isTrue least =>
    subst least
    obtain ⟨lower, upper⟩ : 160 ≤ b.toNat ∧ b.toNat ≤ 191 := between_iff.mp second
    simp
    omega
  case isFalse =>
    split at second
    case isTrue surrogate =>
      subst surrogate
      obtain ⟨lower, upper⟩ : 128 ≤ b.toNat ∧ b.toNat ≤ 159 := between_iff.mp second
      simp
      omega
    case isFalse notLeast notSurrogate =>
      obtain ⟨lower, upper⟩ := isContinuation_iff.mp second
      rw [← UInt8.toNat_inj] at notLeast notSurrogate
      exact ⟨lower, upper, fun least => absurd least notLeast,
        fun surrogate => absurd surrogate notSurrogate⟩

theorem encodeChar_three {a b c : UInt8} (first : (0xE0 ≤ a && a ≤ 0xEF) = true)
    (second : isSecondOfThree a b = true) (third : isContinuation c = true) :
    String.utf8EncodeChar (Char.ofNat ((a.toNat % 16 * 64 + payload b) * 64 + payload c)) =
      [a, b, c] := by
  obtain ⟨lower₂, upper₂, overlong, surrogate⟩ := isSecondOfThree_bounds second
  obtain ⟨lower, upper⟩ : 224 ≤ a.toNat ∧ a.toNat ≤ 239 := between_iff.mp first
  obtain ⟨lower₃, upper₃⟩ := isContinuation_iff.mp third
  simp only [payload]
  generalize point : (a.toNat % 16 * 64 + b.toNat % 64) * 64 + c.toNat % 64 = n
  have code : (Char.ofNat n).toNat = n := toNat_charOfNat (by omega)
  have notOne : ¬ n ≤ 127 := by omega
  have notTwo : ¬ n ≤ 2047 := by omega
  have three : n ≤ 65535 := by omega
  simp only [String.utf8EncodeChar, Char.toNat_val, code, notOne, notTwo, three, if_true, if_false]
  simp [← UInt8.toNat_inj]
  omega

theorem isSecondOfFour_bounds {a b : UInt8} (second : isSecondOfFour a b = true) :
    0x80 ≤ b.toNat ∧ b.toNat ≤ 0xBF ∧ (a.toNat = 0xF0 → 0x90 ≤ b.toNat) ∧
      (a.toNat = 0xF4 → b.toNat ≤ 0x8F) := by
  unfold isSecondOfFour at second
  split at second
  case isTrue least =>
    subst least
    obtain ⟨lower, upper⟩ : 144 ≤ b.toNat ∧ b.toNat ≤ 191 := between_iff.mp second
    simp
    omega
  case isFalse =>
    split at second
    case isTrue greatest =>
      subst greatest
      obtain ⟨lower, upper⟩ : 128 ≤ b.toNat ∧ b.toNat ≤ 143 := between_iff.mp second
      simp
      omega
    case isFalse notLeast notGreatest =>
      obtain ⟨lower, upper⟩ := isContinuation_iff.mp second
      rw [← UInt8.toNat_inj] at notLeast notGreatest
      exact ⟨lower, upper, fun least => absurd least notLeast,
        fun greatest => absurd greatest notGreatest⟩

theorem encodeChar_four {a b c d : UInt8} (first : (0xF0 ≤ a && a ≤ 0xF4) = true)
    (second : isSecondOfFour a b = true) (third : isContinuation c = true)
    (fourth : isContinuation d = true) :
    String.utf8EncodeChar
        (Char.ofNat (((a.toNat % 8 * 64 + payload b) * 64 + payload c) * 64 + payload d)) =
      [a, b, c, d] := by
  obtain ⟨lower₂, upper₂, overlong, last⟩ := isSecondOfFour_bounds second
  obtain ⟨lower, upper⟩ : 240 ≤ a.toNat ∧ a.toNat ≤ 244 := between_iff.mp first
  obtain ⟨lower₃, upper₃⟩ := isContinuation_iff.mp third
  obtain ⟨lower₄, upper₄⟩ := isContinuation_iff.mp fourth
  simp only [payload]
  generalize point : ((a.toNat % 8 * 64 + b.toNat % 64) * 64 + c.toNat % 64) * 64 +
    d.toNat % 64 = n
  have code : (Char.ofNat n).toNat = n := toNat_charOfNat (by omega)
  have notOne : ¬ n ≤ 127 := by omega
  have notTwo : ¬ n ≤ 2047 := by omega
  have notThree : ¬ n ≤ 65535 := by omega
  simp only [String.utf8EncodeChar, Char.toNat_val, code, notOne, notTwo, notThree, if_false]
  simp [← UInt8.toNat_inj]
  omega

theorem encode_of_map {c : Char} {rest bytes : Bytes} {cs : List Char}
    {more : Except Utf8Fault (List Char)} (read : more.map (c :: ·) = .ok cs) (first : String.utf8EncodeChar c ++ rest = bytes)
    (ih : ∀ ds, more = .ok ds → encode ds = rest) : encode cs = bytes := by
  cases more with
  | error fault => cases read
  | ok ds =>
    cases read
    rw [encode_cons, ih ds rfl, first]

theorem encode_of_decodeFrom {at_ : Nat} {bytes : Bytes} {cs : List Char}
    (read : decodeFrom at_ bytes = .ok cs) : encode cs = bytes := by
  -- Besides the end there is one case for each length of a character; all others are faults.
  fun_induction decodeFrom at_ bytes generalizing cs
  case case1 => cases read; rfl
  case case2 first ih => exact encode_of_map read (by rw [encodeChar_one first]; rfl) fun _ => ih
  case case4 first _ _ second ih =>
    exact encode_of_map read (by rw [encodeChar_two first second]; rfl) fun _ => ih
  case case8 first _ second _ _ third ih =>
    exact encode_of_map read (by rw [encodeChar_three first second third]; rfl) fun _ => ih
  case case14 first _ second _ third _ _ fourth ih =>
    exact encode_of_map read (by rw [encodeChar_four first second third fourth]; rfl) fun _ => ih
  all_goals cases read

/-- Bytes are UTF-8 exactly if they encode characters, and then they are read as these. -/
theorem decode_eq_ok_iff {bytes : Bytes} {cs : List Char} :
    decode bytes = .ok cs ↔ encode cs = bytes := by
  constructor
  · exact encode_of_decodeFrom
  · rintro rfl
    exact decode_encode cs

end NotebookKernel.Text
