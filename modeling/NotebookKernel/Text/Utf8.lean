/-! # UTF-8

`encode` writes characters as bytes and `decode` reads them back.  Where bytes are not
UTF-8, `decode` says how many bytes before the fault are well formed and how long the
ill-formed sequence is: the longest start of a well-formed sequence, or one byte.
-/

namespace NotebookKernel.Text

abbrev Bytes := List UInt8

/-- The place where a sequence of bytes stops being UTF-8. -/
structure Utf8Fault where
  validUpTo : Nat
  /-- The length of the ill-formed sequence; `none` if the input ends inside a sequence. -/
  length : Option Nat
  deriving Repr, DecidableEq

def Utf8Fault.message (fault : Utf8Fault) : String :=
  match fault.length with
  | some n =>
    "invalid utf-8 sequence of " ++ toString n ++ " bytes from index " ++ toString fault.validUpTo
  | none => "incomplete utf-8 byte sequence from index " ++ toString fault.validUpTo

/-! ## Writing -/

def encode (cs : List Char) : Bytes :=
  cs.flatMap String.utf8EncodeChar

def bytesOf (s : String) : Bytes :=
  encode s.toList

/-! ## Reading -/

def isContinuation (b : UInt8) : Bool :=
  0x80 ≤ b && b ≤ 0xBF

/-- Whether `b` may follow the first byte `a` of a sequence of three bytes: this excludes
    overlong forms and surrogates. -/
def isSecondOfThree (a b : UInt8) : Bool :=
  if a = 0xE0 then 0xA0 ≤ b && b ≤ 0xBF
  else if a = 0xED then 0x80 ≤ b && b ≤ 0x9F
  else isContinuation b

/-- Whether `b` may follow the first byte `a` of a sequence of four bytes: this excludes
    overlong forms and code points past the last one. -/
def isSecondOfFour (a b : UInt8) : Bool :=
  if a = 0xF0 then 0x90 ≤ b && b ≤ 0xBF
  else if a = 0xF4 then 0x80 ≤ b && b ≤ 0x8F
  else isContinuation b

def payload (b : UInt8) : Nat :=
  b.toNat % 64

/-- `decode` for bytes that begin at offset `at_`. -/
def decodeFrom (at_ : Nat) : Bytes → Except Utf8Fault (List Char)
  | [] => .ok []
  | a :: r₁ =>
    if a < 0x80 then (decodeFrom (at_ + 1) r₁).map (Char.ofNat a.toNat :: ·)
    -- a fault counts the bytes of its sequence that were still in order
    else if 0xC2 ≤ a && a ≤ 0xDF then
      match r₁ with
      | [] => .error ⟨at_, none⟩
      | b :: r₂ =>
        if isContinuation b then
          (decodeFrom (at_ + 2) r₂).map (Char.ofNat (a.toNat % 32 * 64 + payload b) :: ·)
        else .error ⟨at_, some 1⟩
    else if 0xE0 ≤ a && a ≤ 0xEF then
      match r₁ with
      | [] => .error ⟨at_, none⟩
      | b :: r₂ =>
        if isSecondOfThree a b then
          match r₂ with
          | [] => .error ⟨at_, none⟩
          | c :: r₃ =>
            if isContinuation c then
              (decodeFrom (at_ + 3) r₃).map
                (Char.ofNat ((a.toNat % 16 * 64 + payload b) * 64 + payload c) :: ·)
            else .error ⟨at_, some 2⟩
        else .error ⟨at_, some 1⟩
    else if 0xF0 ≤ a && a ≤ 0xF4 then
      match r₁ with
      | [] => .error ⟨at_, none⟩
      | b :: r₂ =>
        if isSecondOfFour a b then
          match r₂ with
          | [] => .error ⟨at_, none⟩
          | c :: r₃ =>
            if isContinuation c then
              match r₃ with
              | [] => .error ⟨at_, none⟩
              | d :: r₄ =>
                if isContinuation d then
                  (decodeFrom (at_ + 4) r₄).map
                    (Char.ofNat
                      (((a.toNat % 8 * 64 + payload b) * 64 + payload c) * 64 + payload d) :: ·)
                else .error ⟨at_, some 3⟩
            else .error ⟨at_, some 2⟩
        else .error ⟨at_, some 1⟩
    else .error ⟨at_, some 1⟩

def decode (bytes : Bytes) : Except Utf8Fault (List Char) :=
  decodeFrom 0 bytes

end NotebookKernel.Text
