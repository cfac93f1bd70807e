import NotebookKernel.Json.Reader

/-! # Skipping a JSON value

A member that nobody asked for is skipped: its text must be JSON, but numbers may have any
size, surrogates need no partner, bytes need not be UTF-8, and the depth is not bounded.
The reader keeps the arrays and objects that are open on a stack.
-/

namespace NotebookKernel.Json

open NotebookKernel.Text (Bytes)

/-! ## Scalars -/

def skipExponent (text : Bytes) : Except Failure Bytes :=
  let text := match text with
    | 0x2B :: rest => rest
    | 0x2D :: rest => rest
    | _ => text
  match text with
  | [] => failHere .invalidNumber []
  | d :: rest =>
    if isDigit d then .ok (rest.dropWhile isDigit) else failHere .invalidNumber rest

def skipOptionalExponent : Bytes → Except Failure Bytes
  | 0x65 :: rest => skipExponent rest
  | 0x45 :: rest => skipExponent rest
  | text => .ok text

def skipFraction : Bytes → Except Failure Bytes
  | [] => failPeek .invalidNumber []
  | b :: rest =>
    if isDigit b then skipOptionalExponent (rest.dropWhile isDigit)
    else failPeek .invalidNumber (b :: rest)

def skipAfterInteger : Bytes → Except Failure Bytes
  | 0x2E :: rest => skipFraction rest
  | text => skipOptionalExponent text

def skipNumber : Bytes → Except Failure Bytes
  | [] => failHere .invalidNumber []
  | b :: rest =>
    if b = 0x30 then
      match rest with
      | [] => .ok []
      | c :: _ => if isDigit c then failPeek .invalidNumber rest else skipAfterInteger rest
    else if isDigit b then skipAfterInteger (rest.dropWhile isDigit)
    else failHere .invalidNumber rest

/-- Skip a string up to and including its closing quote.  A control character is refused
    before it is consumed. -/
def skipString : Bytes → Except Failure Bytes
  | [] => failHere .endOfString []
  | b :: rest =>
    if b = 0x22 then .ok rest
    else if b = 0x5C then
      match rest with
      | [] => failHere .endOfString []
      | e :: rest =>
        if e = 0x75 then
          match rest with
          | h₁ :: h₂ :: h₃ :: h₄ :: rest =>
            match hexValue4 h₁ h₂ h₃ h₄ with
            | none => failHere .invalidEscape rest
            | some _ => skipString rest
          | _ => failHere .endOfString []
        else
          match escapedByte e with
          | some _ => skipString rest
          | none => failHere .invalidEscape rest
    else if b < 0x20 then failHere .controlCharacter (b :: rest)
    else skipString rest

def skipScalar : Bytes → Except Failure Bytes
  | [] => failPeek .endOfValue []
  | b :: rest =>
    if b = 0x6E then (keyword [0x75, 0x6C, 0x6C] rest).map Prod.snd
    else if b = 0x74 then (keyword [0x72, 0x75, 0x65] rest).map Prod.snd
    else if b = 0x66 then (keyword [0x61, 0x6C, 0x73, 0x65] rest).map Prod.snd
    else if b = 0x2D then skipNumber rest
    else if isDigit b then skipNumber (b :: rest)
    else if b = 0x22 then skipString rest
    else failPeek .expectedValue (b :: rest)

/-! ## Open containers -/

inductive Frame where
  | list
  | object
  deriving Repr, DecidableEq

def Frame.closer : Frame → UInt8
  | .list => 0x5D
  | .object => 0x7D

/-- The failure of a text that ends inside a container. -/
def Frame.unfinished : Frame → SyntaxError
  | .list => .endOfList
  | .object => .endOfObject

/-- The failure where a container neither goes on nor ends. -/
def Frame.unseparated : Frame → SyntaxError
  | .list => .expectedListCommaOrEnd
  | .object => .expectedObjectCommaOrEnd

/-- Close containers until one goes on.  The result holds the containers still open; there
    are none once the outermost value is complete.  Only behind an item or a member
    (`behindItem`) may a comma follow. -/
def closeFrames (behindItem : Bool) : List Frame → Bytes → Except Failure (List Frame × Bytes)
  | [], text => .ok ([], text)
  | frame :: outer, text =>
    match skipSpaces text with
    | [] => failPeek frame.unfinished []
    | b :: rest =>
      if behindItem && b = 0x2C then .ok (frame :: outer, rest)
      else if b = frame.closer then closeFrames true outer rest
      else if behindItem then failPeek frame.unseparated (b :: rest)
      else .ok (frame :: outer, b :: rest)

/-- Skip the key and the colon of a member if the innermost container is an object. -/
def skipKey : List Frame → Bytes → Except Failure Bytes
  | .object :: _, text =>
    match skipSpaces text with
    | [] => failPeek .endOfObject []
    | b :: rest =>
      if b = 0x22 then (skipString rest).bind colon else failPeek .keyNotString (b :: rest)
  | _, text => .ok text

/-- Skip a value inside the given containers and everything up to the end of the outermost
    one.  Every round takes a byte, so the length of the text bounds their number. -/
def skipWithin : Nat → List Frame → Bytes → Except Failure Bytes
  | 0, _, text => failPeek .endOfValue text
  | rounds + 1, open_, text =>
    match skipSpaces text with
    | [] => failPeek .endOfValue []
    | b :: rest =>
      -- what is still open behind the first byte of a container, or behind a whole scalar
      let opened :=
        if b = 0x5B then closeFrames false (.list :: open_) rest
        else if b = 0x7B then closeFrames false (.object :: open_) rest
        else (skipScalar (b :: rest)).bind (closeFrames true open_)
      match opened with
      | .error e => .error e
      | .ok ([], rest) => .ok rest
      | .ok (frame :: outer, rest) =>
        match skipKey (frame :: outer) rest with
        | .error e => .error e
        | .ok rest => skipWithin rounds (frame :: outer) rest

def skipValue (text : Bytes) : Except Failure Bytes :=
  skipWithin (text.length + 1) [] text

end NotebookKernel.Json
