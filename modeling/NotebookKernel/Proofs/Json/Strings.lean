import NotebookKernel.Json.Reader
import NotebookKernel.Proofs.Text.Utf8

/-! # Strings there and back

A string is read back from its text with every escape undone.  `stringBytes` works on bytes
and keeps those that it has read, so the step lemma is about one character and any such bytes.
-/

namespace NotebookKernel.Json

open NotebookKernel.Text (Bytes encode decode)

/-! ## Steps of the reader -/

theorem stringBytes_escape (reversed : Bytes) {e b : UInt8} (short : escapedByte e = some b)
    (notHex : e ≠ 0x75) (rest : Bytes) :
    stringBytes reversed (0x5C :: e :: rest) = stringBytes (b :: reversed) rest := by
  rw [stringBytes.eq_def]
  simp [notHex, short]

theorem stringBytes_hex (reversed : Bytes) {h₁ h₂ h₃ h₄ : UInt8} {n : Nat}
    (hex : hexValue4 h₁ h₂ h₃ h₄ = some n) (low : n < 0xD800) (rest : Bytes) :
    stringBytes reversed (0x5C :: 0x75 :: h₁ :: h₂ :: h₃ :: h₄ :: rest) =
      stringBytes (pushCodePoint reversed n) rest := by
  have notLow : isLowSurrogate n = false := by simp [isLowSurrogate]; omega
  have notHigh : isHighSurrogate n = false := by simp [isHighSurrogate]; omega
  rw [stringBytes.eq_def]
  simp [hex, notLow, notHigh]

/-- Bytes that stand for themselves. -/
theorem stringBytes_append (reversed : Bytes) {bytes : Bytes}
    (plain : ∀ b ∈ bytes, b ≠ 0x22 ∧ b ≠ 0x5C ∧ ¬ b < 0x20) (rest : Bytes) :
    stringBytes reversed (bytes ++ rest) = stringBytes (bytes.reverse ++ reversed) rest := by
  induction bytes generalizing reversed with
  | nil => rfl
  | cons b bytes ih =>
    obtain ⟨notQuote, notBackslash, notControl⟩ := plain b (by simp)
    rw [List.cons_append, stringBytes.eq_def]
    simp only [notQuote, notBackslash, notControl, if_false]
    rw [ih (b :: reversed) fun other member => plain other (List.mem_cons_of_mem _ member)]
    simp

theorem plain_of_toNat {b : UInt8} (notQuote : b.toNat ≠ 0x22) (notBackslash : b.toNat ≠ 0x5C)
    (notControl : 0x20 ≤ b.toNat) : b ≠ 0x22 ∧ b ≠ 0x5C ∧ ¬ b < 0x20 := by
  refine ⟨?_, ?_, ?_⟩
  · rintro rfl; exact notQuote rfl
  · rintro rfl; exact notBackslash rfl
  · rw [UInt8.lt_iff_toNat_lt]
    exact Nat.not_lt.mpr notControl

theorem hexValue_digitChar {d : Nat} (small : d < 16) :
    hexValue (UInt8.ofNat (Nat.digitChar d).toNat) = some d := by
  revert d
  decide

/-! ## Characters -/

/-- A character is written as an escape of one letter, as a hexadecimal escape, or as itself. -/
theorem escapeChar_cases (c : Char) :
    (∃ e : Char, escapeChar c = ['\\', e] ∧ 0x20 ≤ e.toNat ∧ e.toNat < 0x80 ∧ c.toNat < 0x80 ∧
      UInt8.ofNat e.toNat ≠ 0x75 ∧
      escapedByte (UInt8.ofNat e.toNat) = some (UInt8.ofNat c.toNat)) ∨
    (c.toNat < 0x20 ∧ escapeChar c =
      ['\\', 'u', '0', '0', Nat.digitChar (c.toNat / 16), Nat.digitChar (c.toNat % 16)]) ∨
    (c ≠ '"' ∧ c ≠ '\\' ∧ 0x20 ≤ c.toNat ∧ escapeChar c = [c]) := by
  by_cases quote : c = '"'
  · subst quote; exact .inl ⟨'"', rfl, by decide⟩
  by_cases backslash : c = '\\'
  · subst backslash; exact .inl ⟨'\\', rfl, by decide⟩
  by_cases backspace : c = '\x08'
  · subst backspace; exact .inl ⟨'b', rfl, by decide⟩
  by_cases formFeed : c = '\x0c'
  · subst formFeed; exact .inl ⟨'f', rfl, by decide⟩
  by_cases newline : c = '\n'
  · subst newline; exact .inl ⟨'n', rfl, by decide⟩
  by_cases return_ : c = '\r'
  · subst return_; exact .inl ⟨'r', rfl, by decide⟩
  by_cases tab : c = '\t'
  · subst tab; exact .inl ⟨'t', rfl, by decide⟩
  right
  by_cases control : c.toNat < 0x20
  · left
    simp [escapeChar, quote, backslash, backspace, formFeed, newline, return_, tab, control]
  · right
    refine ⟨quote, backslash, by omega, ?_⟩
    simp [escapeChar, quote, backslash, backspace, formFeed, newline, return_, tab, control]

theorem toNat_digitChar_lt {d : Nat} (small : d < 16) : (Nat.digitChar d).toNat < 0x80 := by
  revert d
  decide

theorem toNat_digitChar_ge {d : Nat} (small : d < 16) : 0x30 ≤ (Nat.digitChar d).toNat := by
  revert d
  decide

/-- A character is read back from its escape. -/
theorem stringBytes_escapeChar (reversed : Bytes) (c : Char) (rest : Bytes) :
    stringBytes reversed (encode (escapeChar c) ++ rest) =
      stringBytes ((String.utf8EncodeChar c).reverse ++ reversed) rest := by
  obtain ⟨e, escaped, -, ascii, asciiChar, notHex, short⟩ | ⟨control, escaped⟩ |
    ⟨notQuote, notBackslash, notControl, escaped⟩ := escapeChar_cases c
  · have bytes : encode ['\\', e] = [0x5C, UInt8.ofNat e.toNat] := by
      rw [Text.encode_cons_ascii (by decide), Text.encode_cons_ascii ascii]
      rfl
    rw [escaped, bytes, Text.utf8EncodeChar_ascii asciiChar]
    exact stringBytes_escape reversed short notHex rest
  · have high : c.toNat / 16 < 16 := by omega
    have low : c.toNat % 16 < 16 := Nat.mod_lt _ (by omega)
    have bytes : encode (escapeChar c) =
        [0x5C, 0x75, 0x30, 0x30, UInt8.ofNat (Nat.digitChar (c.toNat / 16)).toNat,
          UInt8.ofNat (Nat.digitChar (c.toNat % 16)).toNat] := by
      rw [escaped]
      iterate 4 rw [Text.encode_cons_ascii (by decide)]
      rw [Text.encode_cons_ascii (toNat_digitChar_lt high),
        Text.encode_cons_ascii (toNat_digitChar_lt low)]
      rfl
    have zero : hexValue 0x30 = some 0 := rfl
    have hex : hexValue4 0x30 0x30 (UInt8.ofNat (Nat.digitChar (c.toNat / 16)).toNat)
        (UInt8.ofNat (Nat.digitChar (c.toNat % 16)).toNat) = some c.toNat := by
      simp only [hexValue4, zero, hexValue_digitChar high, hexValue_digitChar low]
      congr 1
      omega
    rw [bytes]
    simp only [List.cons_append, List.nil_append]
    rw [stringBytes_hex reversed hex (by omega), pushCodePoint, Char.ofNat_toNat]
  · -- The bytes of a longer character are all above `0x7F`, so none of them ends the string.
    rw [escaped, Text.encode_cons, Text.encode_nil, List.append_nil]
    apply stringBytes_append
    intro b member
    obtain above | same := Text.mem_utf8EncodeChar member
    · exact plain_of_toNat (by omega) (by omega) (by omega)
    · rw [← same] at notControl
      refine plain_of_toNat (fun quote => ?_) (fun backslash => ?_) notControl
      · exact notQuote (Char.toNat_inj.mp (same.symm.trans quote))
      · exact notBackslash (Char.toNat_inj.mp (same.symm.trans backslash))

/-! ## Strings -/

theorem stringBytes_escaped (reversed : Bytes) (cs : List Char) (rest : Bytes) :
    stringBytes reversed (encode (cs.flatMap escapeChar) ++ rest) =
      stringBytes ((encode cs).reverse ++ reversed) rest := by
  induction cs generalizing reversed with
  | nil => rfl
  | cons c cs ih =>
    rw [List.flatMap_cons, Text.encode_append, List.append_assoc, stringBytes_escapeChar, ih,
      Text.encode_cons, List.reverse_append, List.append_assoc]

/-- A string is read back behind its opening quote. -/
theorem stringBody_escaped (s : String) (rest : Bytes) :
    stringBody (encode (s.toList.flatMap escapeChar) ++ 0x22 :: rest) = .ok (s, rest) := by
  have closing (reversed : Bytes) :
      stringBytes reversed (0x22 :: rest) = .ok (reversed.reverse, rest) := by
    rw [stringBytes.eq_def]
    rfl
  simp [stringBody, stringBytes_escaped, closing]

/-- An escape has no control characters. -/
theorem printable_of_mem_escapeChar {c d : Char} (member : d ∈ escapeChar c) : 0x20 ≤ d.toNat := by
  obtain ⟨e, escaped, printable, -⟩ | ⟨control, escaped⟩ | ⟨-, -, printable, escaped⟩ :=
    escapeChar_cases c
  · rw [escaped] at member
    simp only [List.mem_cons, List.not_mem_nil, or_false] at member
    obtain rfl | rfl := member
    · decide
    · exact printable
  · have high := toNat_digitChar_ge (d := c.toNat / 16) (by omega)
    have low := toNat_digitChar_ge (d := c.toNat % 16) (by omega)
    rw [escaped] at member
    simp only [List.mem_cons, List.not_mem_nil, or_false] at member
    obtain rfl | rfl | rfl | rfl | rfl | rfl := member
    · decide
    · decide
    · decide
    · decide
    · omega
    · omega
  · rw [escaped, List.mem_singleton] at member
    rw [member]
    exact printable

end NotebookKernel.Json
