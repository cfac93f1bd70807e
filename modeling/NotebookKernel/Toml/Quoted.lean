import NotebookKernel.Toml.Scalar

/-! # Strings

Strings stand between quotes or apostrophes, one for a string on one line and three for one
that may run over several.  Only quotes give escapes a meaning.
-/

namespace NotebookKernel.Toml

/-- Whether a character can stand in a string or a comment: no control character but the
    tabulator. -/
def isPrintable (c : Char) : Bool :=
  c = '\t' || (' ' ≤ c && c ≠ '\x7f')

def isBlank (c : Char) : Bool :=
  c = ' ' || c = '\t'

def startsLine : List Char → Bool
  | '\n' :: _ => true
  | '\r' :: '\n' :: _ => true
  | _ => false

def dropNewline : List Char → List Char
  | '\n' :: rest => rest
  | '\r' :: '\n' :: rest => rest
  | text => text

def escaped (c : Char) : Option Char :=
  match c with
  | 'b' => some '\x08'
  | 't' => some '\t'
  | 'n' => some '\n'
  | 'f' => some '\x0c'
  | 'r' => some '\r'
  | '"' => some '"'
  | '\\' => some '\\'
  | _ => none

def codePoint (digits : List Char) : Option Char :=
  if digits.all (isDigitOf 16) then
    let n := numberOf 16 digits
    if n < 0xD800 || (0xDFFF < n && n ≤ 0x10FFFF) then some (Char.ofNat n) else none
  else none

/-- A string between quotes, behind the first one.  The characters read so far are
    `reversed`. -/
def quotedFrom (reversed : List Char) : List Char → Option (String × List Char)
  | [] => none
  | '"' :: rest => some (String.ofList reversed.reverse, rest)
  | '\\' :: 'u' :: a :: b :: c :: d :: rest =>
    match codePoint [a, b, c, d] with
    | some ch => quotedFrom (ch :: reversed) rest
    | none => none
  | '\\' :: 'U' :: a :: b :: c :: d :: e :: f :: g :: h :: rest =>
    match codePoint [a, b, c, d, e, f, g, h] with
    | some ch => quotedFrom (ch :: reversed) rest
    | none => none
  | '\\' :: c :: rest =>
    match escaped c with
    | some ch => quotedFrom (ch :: reversed) rest
    | none => none
  | c :: rest => if isPrintable c then quotedFrom (c :: reversed) rest else none

/-- A string between three quotes, behind the first three.  Up to two more quotes may stand
    in front of the last three.  A backslash at the end of a line is dropped together with
    all blanks and lines behind it: `skipping` says that these are being dropped. -/
def longQuotedFrom (skipping : Bool) (reversed : List Char) :
    List Char → Option (String × List Char)
  | [] => none
  | '\n' :: rest => longQuotedFrom skipping (if skipping then reversed else '\n' :: reversed) rest
  | '\r' :: '\n' :: rest =>
    longQuotedFrom skipping (if skipping then reversed else '\n' :: reversed) rest
  | '"' :: '"' :: '"' :: '"' :: '"' :: rest =>
    some (String.ofList ('"' :: '"' :: reversed).reverse, rest)
  | '"' :: '"' :: '"' :: '"' :: rest => some (String.ofList ('"' :: reversed).reverse, rest)
  | '"' :: '"' :: '"' :: rest => some (String.ofList reversed.reverse, rest)
  | '\\' :: 'u' :: a :: b :: c :: d :: rest =>
    match codePoint [a, b, c, d] with
    | some ch => longQuotedFrom false (ch :: reversed) rest
    | none => none
  | '\\' :: 'U' :: a :: b :: c :: d :: e :: f :: g :: h :: rest =>
    match codePoint [a, b, c, d, e, f, g, h] with
    | some ch => longQuotedFrom false (ch :: reversed) rest
    | none => none
  | '\\' :: c :: rest =>
    match escaped c with
    | some ch => longQuotedFrom false (ch :: reversed) rest
    | none =>
      -- only blanks may stand between the backslash and the end of its line
      if startsLine ((c :: rest).dropWhile isBlank) then longQuotedFrom true reversed (c :: rest)
      else none
  | c :: rest =>
    if skipping && isBlank c then longQuotedFrom true reversed rest
    else if isPrintable c && c ≠ '\\' then longQuotedFrom false (c :: reversed) rest
    else none

def literalFrom (reversed : List Char) : List Char → Option (String × List Char)
  | [] => none
  | '\'' :: rest => some (String.ofList reversed.reverse, rest)
  | c :: rest => if isPrintable c then literalFrom (c :: reversed) rest else none

def longLiteralFrom (reversed : List Char) : List Char → Option (String × List Char)
  | [] => none
  | '\n' :: rest => longLiteralFrom ('\n' :: reversed) rest
  | '\r' :: '\n' :: rest => longLiteralFrom ('\n' :: reversed) rest
  | '\'' :: '\'' :: '\'' :: '\'' :: '\'' :: rest =>
    some (String.ofList ('\'' :: '\'' :: reversed).reverse, rest)
  | '\'' :: '\'' :: '\'' :: '\'' :: rest => some (String.ofList ('\'' :: reversed).reverse, rest)
  | '\'' :: '\'' :: '\'' :: rest => some (String.ofList reversed.reverse, rest)
  | c :: rest => if isPrintable c then longLiteralFrom (c :: reversed) rest else none

def quotedString : List Char → Option (String × List Char)
  | '"' :: '"' :: '"' :: rest => longQuotedFrom false [] (dropNewline rest)
  | '"' :: rest => quotedFrom [] rest
  | '\'' :: '\'' :: '\'' :: rest => longLiteralFrom [] (dropNewline rest)
  | '\'' :: rest => literalFrom [] rest
  | _ => none

end NotebookKernel.Toml
