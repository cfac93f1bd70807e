import NotebookKernel.Json.Failure

/-! # Reading JSON text

A reader consumes bytes from the front of a text.  A failure is placed either *here*,
behind the bytes consumed so far, or at a *peek*, behind the next byte, which has only been
looked at.  `value` reads any JSON value; its depth argument bounds how many arrays and
objects may still open inside one another.
-/

namespace NotebookKernel.Json

open NotebookKernel.Text (Bytes)
open NotebookKernel.Decimal (Binary64)

/-- A reader takes bytes from the front of a text and returns the rest. -/
abbrev Reader (α : Type) := Bytes → Except Failure (α × Bytes)

/-- Fail behind the bytes consumed so far. -/
def failHere {α : Type} (e : SyntaxError) (rest : Bytes) : Except Failure α :=
  .error ⟨.badSyntax e, rest.length⟩

/-- Fail behind the next byte, which is not consumed. -/
def failPeek {α : Type} (e : SyntaxError) (rest : Bytes) : Except Failure α :=
  .error ⟨.badSyntax e, rest.length - 1⟩

/-- Fail with the wrong shape behind the bytes consumed so far. -/
def failShape {α : Type} (e : ShapeError) (rest : Bytes) : Except Failure α :=
  .error ⟨.shape e, rest.length⟩

/-! ## Blanks and keywords -/

def isSpace (b : UInt8) : Bool :=
  b = 0x20 || b = 0x0A || b = 0x0D || b = 0x09

def skipSpaces (text : Bytes) : Bytes :=
  text.dropWhile isSpace

/-- Consume the given bytes, and with them the first one that differs. -/
def keyword : Bytes → Reader Unit
  | [], text => .ok ((), text)
  | _ :: _, [] => failHere .endOfValue []
  | k :: ks, b :: rest => if b = k then keyword ks rest else failHere .expectedKeyword rest

/-! ## Numbers -/

def isDigit (b : UInt8) : Bool :=
  0x30 ≤ b && b ≤ 0x39

def digitValue (b : UInt8) : Nat :=
  b.toNat - 0x30

/-- Append digits to a number as long as it stays within a limit.  The result holds the
    number, how many digits were appended, and the text from the first byte not taken. -/
def appendDigits (limit n : Nat) (count : Nat) : Bytes → Nat × Nat × Bytes
  | [] => (n, count, [])
  | b :: rest =>
    if isDigit b && n * 10 + digitValue b ≤ limit then
      appendDigits limit (n * 10 + digitValue b) (count + 1) rest
    else (n, count, b :: rest)

def greatestUnsigned : Nat := Nat.pow 2 64 - 1

def greatestExponentText : Nat := Nat.pow 2 31 - 1

def finishDouble (negative : Bool) (significand : Nat) (exponent : Int) : Reader Value := fun rest =>
  match Binary64.ofDecimal negative significand exponent with
  | some x => .ok (.double x, rest)
  | none => failHere .numberOutOfRange rest

/-- The exponent of a number, behind its mark.  An exponent that is too long to be kept
    makes the number zero, or is out of range at the first digit that does not fit. -/
def exponentPart (negative : Bool) (significand : Nat) (exponent : Int) : Reader Value := fun text =>
  let (minus, text) := match text with
    | 0x2B :: rest => (false, rest)
    | 0x2D :: rest => (true, rest)
    | _ => (false, text)
  match text with
  | [] => failHere .endOfValue []
  | d :: rest =>
    if isDigit d then
      let (e, _, rest) := appendDigits greatestExponentText (digitValue d) 0 rest
      match rest with
      | [] => finishDouble negative significand (if minus then exponent - e else exponent + e) []
      | b :: more =>
        -- a digit is left over, so the exponent is greater than can be kept
        if isDigit b then
          if significand ≠ 0 && !minus then failHere .numberOutOfRange more
          else .ok (.double ⟨negative, .zero⟩, more.dropWhile isDigit)
        else finishDouble negative significand (if minus then exponent - e else exponent + e) rest
    else failHere .invalidNumber rest

def optionalExponent (negative : Bool) (significand : Nat) (exponent : Int) : Reader Value
  | 0x65 :: rest => exponentPart negative significand exponent rest
  | 0x45 :: rest => exponentPart negative significand exponent rest
  | text => finishDouble negative significand exponent text

/-- The fraction of a number, behind its point.  Digits that no longer fit into the
    significand are dropped. -/
def fractionPart (negative : Bool) (significand : Nat) (exponent : Int) : Reader Value := fun text =>
  match text with
  | [] => failPeek .endOfValue []
  | b :: _ =>
    if isDigit b then
      let (n, count, rest) := appendDigits greatestUnsigned significand 0 text
      optionalExponent negative n (exponent - count) (rest.dropWhile isDigit)
    else failPeek .invalidNumber text

/-- The integer of a significand; a negative one that is zero or below `-2 ^ 63` is a double. -/
def wholeNumber (negative : Bool) (significand : Nat) : Reader Value := fun rest =>
  if !negative then .ok (.integer significand, rest)
  else if significand = 0 || Nat.pow 2 63 < significand then
    finishDouble true significand 0 rest
  else .ok (.integer (-significand), rest)

/-- What follows the digits of the integer part, `dropped` of which did not fit into the
    significand. -/
def afterInteger (negative : Bool) (significand dropped : Nat) : Reader Value
  | 0x2E :: rest => fractionPart negative significand dropped rest
  | 0x65 :: rest => exponentPart negative significand dropped rest
  | 0x45 :: rest => exponentPart negative significand dropped rest
  | text =>
    if dropped = 0 then wholeNumber negative significand text
    else finishDouble negative significand dropped text

def number (negative : Bool) : Reader Value
  | [] => failHere .endOfValue []
  | b :: rest =>
    -- a leading zero stands alone
    if b = 0x30 then
      match rest with
      | [] => afterInteger negative 0 0 []
      | c :: _ => if isDigit c then failPeek .invalidNumber rest else afterInteger negative 0 0 rest
    else if isDigit b then
      let (n, _, more) := appendDigits greatestUnsigned (digitValue b) 0 rest
      let dropped := more.takeWhile isDigit
      afterInteger negative n dropped.length (more.drop dropped.length)
    else failHere .invalidNumber rest

/-! ## Strings -/

def hexValue (b : UInt8) : Option Nat :=
  if 0x30 ≤ b && b ≤ 0x39 then some (b.toNat - 0x30)
  else if 0x61 ≤ b && b ≤ 0x66 then some (b.toNat - 0x61 + 10)
  else if 0x41 ≤ b && b ≤ 0x46 then some (b.toNat - 0x41 + 10)
  else none

def hexValue4 (a b c d : UInt8) : Option Nat :=
  match hexValue a, hexValue b, hexValue c, hexValue d with
  | some w, some x, some y, some z => some (((w * 16 + x) * 16 + y) * 16 + z)
  | _, _, _, _ => none

def escapedByte (b : UInt8) : Option UInt8 :=
  if b = 0x22 || b = 0x5C || b = 0x2F then some b
  else if b = 0x62 then some 0x08
  else if b = 0x66 then some 0x0C
  else if b = 0x6E then some 0x0A
  else if b = 0x72 then some 0x0D
  else if b = 0x74 then some 0x09
  else none

def isHighSurrogate (n : Nat) : Bool :=
  0xD800 ≤ n && n ≤ 0xDBFF

def isLowSurrogate (n : Nat) : Bool :=
  0xDC00 ≤ n && n ≤ 0xDFFF

def surrogatePair (high low : Nat) : Nat :=
  0x10000 + (high - 0xD800) * 0x400 + (low - 0xDC00)

def pushCodePoint (reversed : Bytes) (n : Nat) : Bytes :=
  (String.utf8EncodeChar (Char.ofNat n)).reverse ++ reversed

/-- The bytes of a string up to its closing quote, escapes resolved.  The argument
    `reversed` holds the bytes read so far, the last one first. -/
def stringBytes (reversed : Bytes) : Bytes → Except Failure (Bytes × Bytes)
  | [] => failHere .endOfString []
  | b :: rest =>
    -- the quote, the backslash and, behind it, the letter u
    if b = 0x22 then .ok (reversed.reverse, rest)
    else if b = 0x5C then
      match rest with
      | [] => failHere .endOfString []
      | e :: rest =>
        if e = 0x75 then
          match rest with
          | h₁ :: h₂ :: h₃ :: h₄ :: rest =>
            match hexValue4 h₁ h₂ h₃ h₄ with
            | none => failHere .invalidEscape rest
            | some n =>
              -- a high surrogate comes first, and its low half right behind it
              if isLowSurrogate n then failHere .loneSurrogate rest
              else if isHighSurrogate n then
                match rest with
                | [] => failHere .endOfString []
                | s :: rest =>
                  if s ≠ 0x5C then failHere .unfinishedSurrogatePair rest
                  else
                    match rest with
                    | [] => failHere .endOfString []
                    | u :: rest =>
                      if u ≠ 0x75 then failHere .unfinishedSurrogatePair rest
                      else
                        match rest with
                        | l₁ :: l₂ :: l₃ :: l₄ :: rest =>
                          match hexValue4 l₁ l₂ l₃ l₄ with
                          | none => failHere .invalidEscape rest
                          | some m =>
                            if isLowSurrogate m then
                              stringBytes (pushCodePoint reversed (surrogatePair n m)) rest
                            else failHere .loneSurrogate rest
                        | _ => failHere .endOfString []
              else stringBytes (pushCodePoint reversed n) rest
          | _ => failHere .endOfString []
        else
          match escapedByte e with
          | some c => stringBytes (c :: reversed) rest
          | none => failHere .invalidEscape rest
    else if b < 0x20 then failHere .controlCharacter rest
    else stringBytes (b :: reversed) rest

/-- The text of a string behind its opening quote.  Bytes that are not UTF-8 are reported
    behind the well-formed part. -/
def stringBody : Reader String := fun text =>
  match stringBytes [] text with
  | .error e => .error e
  | .ok (bytes, rest) =>
    match Text.decode bytes with
    | .ok cs => .ok (String.ofList cs, rest)
    | .error fault =>
      .error ⟨.badSyntax .invalidCodePoint, rest.length + (bytes.length - fault.validUpTo)⟩

/-! ## Items and members -/

/-- What stands where an item or a key may follow: the end of the container, or a byte that
    has to begin the item or key. -/
inductive Next where
  | closed (rest : Bytes)
  | more (text : Bytes)

def nextItem (first : Bool) (text : Bytes) : Except Failure Next :=
  match skipSpaces text with
  | [] => failPeek .endOfList []
  | b :: rest =>
    -- the closing bracket, or else a comma unless this is the first item
    if b = 0x5D then .ok (.closed rest)
    else if first then .ok (.more (b :: rest))
    else if b = 0x2C then
      match skipSpaces rest with
      | [] => failPeek .endOfValue []
      | c :: rest =>
        if c = 0x5D then failPeek .trailingComma (c :: rest) else .ok (.more (c :: rest))
    else failPeek .expectedListCommaOrEnd (b :: rest)

def keyFrom (b : UInt8) (rest : Bytes) : Except Failure (String × Bytes) :=
  if b = 0x22 then stringBody rest else failPeek .keyNotString (b :: rest)

/-- Find the next member of an object and read its key; `none` at the end of the object. -/
def nextKey (first : Bool) (text : Bytes) : Except Failure (Option String × Bytes) :=
  match skipSpaces text with
  | [] => failPeek .endOfObject []
  | b :: rest =>
    -- the closing brace, or else a comma unless this is the first member
    if b = 0x7D then .ok (none, rest)
    else if first then (keyFrom b rest).map fun (key, rest) => (some key, rest)
    else if b = 0x2C then
      match skipSpaces rest with
      | [] => failPeek .endOfValue []
      | c :: rest =>
        if c = 0x7D then failPeek .trailingComma (c :: rest)
        else (keyFrom c rest).map fun (key, rest) => (some key, rest)
    else failPeek .expectedObjectCommaOrEnd (b :: rest)

def colon (text : Bytes) : Except Failure Bytes :=
  match skipSpaces text with
  | [] => failPeek .endOfObject []
  | b :: rest => if b = 0x3A then .ok rest else failPeek .expectedColon (b :: rest)

/-- The items of an array up to its end.  Every item takes a byte, so the length of the text
    bounds the number of rounds. -/
def items {α : Type} (item : Reader α) : Nat → Bool → Reader (List α)
  | 0, _, text => failPeek .endOfList text
  | rounds + 1, first, text =>
    match nextItem first text with
    | .error e => .error e
    | .ok (.closed rest) => .ok ([], rest)
    | .ok (.more text) =>
      match item text with
      | .error e => .error e
      | .ok (a, rest) =>
        match items item rounds false rest with
        | .error e => .error e
        | .ok (as, rest) => .ok (a :: as, rest)

/-- The members of an object up to its end, with the length of the text as bound. -/
def members {α : Type} (item : Reader α) : Nat → Bool → Reader (List (String × α))
  | 0, _, text => failPeek .endOfObject text
  | rounds + 1, first, text =>
    match nextKey first text with
    | .error e => .error e
    | .ok (none, rest) => .ok ([], rest)
    | .ok (some key, rest) =>
      match colon rest with
      | .error e => .error e
      | .ok rest =>
        match item rest with
        | .error e => .error e
        | .ok (a, rest) =>
          match members item rounds false rest with
          | .error e => .error e
          | .ok (as, rest) => .ok ((key, a) :: as, rest)

/-! ## Values -/

def scalar : Reader Value
  | [] => failPeek .endOfValue []
  | b :: rest =>
    -- null, true and false, then numbers and strings
    if b = 0x6E then (keyword [0x75, 0x6C, 0x6C] rest).map fun (_, rest) => (.null, rest)
    else if b = 0x74 then (keyword [0x72, 0x75, 0x65] rest).map fun (_, rest) => (.bool true, rest)
    else if b = 0x66 then
      (keyword [0x61, 0x6C, 0x73, 0x65] rest).map fun (_, rest) => (.bool false, rest)
    else if b = 0x2D then number true rest
    else if isDigit b then number false (b :: rest)
    else if b = 0x22 then (stringBody rest).map fun (s, rest) => (.string s, rest)
    else failPeek .expectedValue (b :: rest)

/-- A value in which at most `depth` arrays and objects are open at a time. -/
def value : Nat → Reader Value
  | 0, text =>
    match skipSpaces text with
    | [] => failPeek .endOfValue []
    | b :: rest =>
      if b = 0x5B || b = 0x7B then failPeek .depthExceeded (b :: rest) else scalar (b :: rest)
  | depth + 1, text =>
    match skipSpaces text with
    | [] => failPeek .endOfValue []
    | b :: rest =>
      -- a bracket opens an array and a brace an object
      if b = 0x5B then
        (items (value depth) (rest.length + 1) true rest).map fun (vs, rest) => (.array vs, rest)
      else if b = 0x7B then
        (members (value depth) (rest.length + 1) true rest).map fun (ms, rest) => (.object ms, rest)
      else scalar (b :: rest)

/-- How many arrays and objects may be open at a time in a document. -/
def greatestDepth : Nat := 127

/-- Nothing but spaces may follow a document. -/
def endOfDocument {α : Type} (result : α × Bytes) : Except Failure α :=
  match skipSpaces result.2 with
  | [] => .ok result.1
  | b :: rest => failPeek .trailingCharacters (b :: rest)

def readDocument (text : Bytes) : Except Failure Value :=
  match value greatestDepth text with
  | .error e => .error e
  | .ok result => endOfDocument result

/-- The value of a whole document in canonical form. -/
def parse (text : Bytes) : Except Failure Value :=
  (readDocument text).map Value.canonical

end NotebookKernel.Json
