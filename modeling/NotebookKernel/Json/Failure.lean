import NotebookKernel.Json.Printer
import NotebookKernel.Text.Quoted
import NotebookKernel.Text.Utf8

/-! # Why a JSON text is refused

A text can fail to be JSON (`SyntaxError`) or be JSON of another shape than asked for
(`ShapeError`).  A `Failure` pairs the cause with a place, given as the number of bytes
behind it, from which `Failure.message` computes line and column.
-/

namespace NotebookKernel.Json

open NotebookKernel.Text (Bytes quoted)

/-! ## Syntax -/

inductive SyntaxError where
  | endOfList
  | endOfObject
  | endOfString
  | endOfValue
  | expectedColon
  | expectedListCommaOrEnd
  | expectedObjectCommaOrEnd
  | expectedKeyword
  | expectedValue
  | invalidEscape
  | invalidNumber
  | numberOutOfRange
  | invalidCodePoint
  | controlCharacter
  | keyNotString
  | loneSurrogate
  | trailingComma
  | trailingCharacters
  | unfinishedSurrogatePair
  | depthExceeded
  deriving Repr, DecidableEq

def SyntaxError.message : SyntaxError → String
  | .endOfList => "EOF while parsing a list"
  | .endOfObject => "EOF while parsing an object"
  | .endOfString => "EOF while parsing a string"
  | .endOfValue => "EOF while parsing a value"
  | .expectedColon => "expected `:`"
  | .expectedListCommaOrEnd => "expected `,` or `]`"
  | .expectedObjectCommaOrEnd => "expected `,` or `\x7d`"
  | .expectedKeyword => "expected ident"
  | .expectedValue => "expected value"
  | .invalidEscape => "invalid escape"
  | .invalidNumber => "invalid number"
  | .numberOutOfRange => "number out of range"
  | .invalidCodePoint => "invalid unicode code point"
  | .controlCharacter => "control character (\\u0000-\\u001F) found while parsing a string"
  | .keyNotString => "key must be a string"
  | .loneSurrogate => "lone leading surrogate in hex escape"
  | .trailingComma => "trailing comma"
  | .trailingCharacters => "trailing characters"
  | .unfinishedSurrogatePair => "unexpected end of hex escape"
  | .depthExceeded => "recursion limit exceeded"

/-! ## Shape -/

/-- What stands where something else was expected. -/
inductive Found where
  | null
  | boolean (b : Bool)
  | integer (i : Int)
  | double (x : Decimal.Binary64)
  | string (s : String)
  | sequence
  | map
  deriving Repr, DecidableEq

def Value.found : Value → Found
  | .null => .null
  | .bool b => .boolean b
  | .integer i => .integer i
  | .double x => .double x
  | .string s => .string s
  | .array _ => .sequence
  | .object _ => .map

def Found.describe : Found → String
  | .null => "null"
  | .boolean b => "boolean `" ++ (if b then "true" else "false") ++ "`"
  | .integer i => "integer `" ++ String.ofList (renderInteger i) ++ "`"
  | .double x => "floating point `" ++ String.ofList (x.write doubleNotation) ++ "`"
  | .string s => "string " ++ quoted s
  | .sequence => "sequence"
  | .map => "map"

inductive ShapeError where
  | invalidType (found : Found) (expected : String)
  | invalidValue (found : Found) (expected : String)
  | invalidLength (length : Nat) (expected : String)
  | missingField (name : String)
  | duplicateField (name : String)
  | unknownVariant (name : String) (known : List String)
  deriving Repr, DecidableEq

def ShapeError.message : ShapeError → String
  | .invalidType found expected => "invalid type: " ++ found.describe ++ ", expected " ++ expected
  | .invalidValue found expected => "invalid value: " ++ found.describe ++ ", expected " ++ expected
  | .invalidLength n expected => "invalid length " ++ toString n ++ ", expected " ++ expected
  | .missingField name => "missing field `" ++ name ++ "`"
  | .duplicateField name => "duplicate field `" ++ name ++ "`"
  | .unknownVariant name known =>
    "unknown variant `" ++ name ++ "`, expected one of " ++
      ", ".intercalate (known.map fun k => "`" ++ k ++ "`")

/-! ## Failures in a text -/

inductive Cause where
  | badSyntax (e : SyntaxError)
  | shape (e : ShapeError)
  deriving Repr, DecidableEq

def Cause.message : Cause → String
  | .badSyntax e => e.message
  | .shape e => e.message

/-- A cause and the number of bytes of the text behind its place. -/
structure Failure where
  cause : Cause
  left : Nat
  deriving Repr, DecidableEq

/-- A place in a text: lines count from one, columns count the bytes since the last newline. -/
structure Place where
  line : Nat
  column : Nat
  deriving Repr, DecidableEq

def Place.after (bytes : Bytes) : Place where
  line := 1 + bytes.count 0x0A
  column := (bytes.reverse.takeWhile (· != 0x0A)).length

def Failure.message (f : Failure) (text : Bytes) : String :=
  let place := Place.after (text.take (text.length - f.left))
  f.cause.message ++ " at line " ++ toString place.line ++ " column " ++ toString place.column

end NotebookKernel.Json
