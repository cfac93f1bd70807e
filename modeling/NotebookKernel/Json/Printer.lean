import NotebookKernel.Json.Basic
import NotebookKernel.Decimal.Notation

/-! # Compact JSON text

`Value.render` writes a value without any white space, the members of objects in the order
they have.  Inside a string only the quote, the backslash and the control characters are
escaped.
-/

namespace NotebookKernel.Json

open NotebookKernel.Decimal (Notation)

/-! ## Numbers -/

/-- Doubles are written positionally from `0.00001` up to sixteen digits before the point,
    whole ones with `.0`; elsewhere the exponent always carries its sign. -/
def doubleNotation : Notation where
  leastPositional := -5
  greatestPositional := 15
  wholeSuffix := ['.', '0']
  exponentMark := ['e']
  plusSign := ['+']

def renderInteger : Int → List Char
  | .ofNat n => Nat.toDigits 10 n
  | .negSucc n => '-' :: Nat.toDigits 10 (n + 1)

/-! ## Strings -/

def escapeChar (c : Char) : List Char :=
  if c = '"' then ['\\', '"']
  else if c = '\\' then ['\\', '\\']
  else if c = '\x08' then ['\\', 'b']
  else if c = '\x0c' then ['\\', 'f']
  else if c = '\n' then ['\\', 'n']
  else if c = '\r' then ['\\', 'r']
  else if c = '\t' then ['\\', 't']
  else if c.toNat < 0x20 then
    ['\\', 'u', '0', '0', Nat.digitChar (c.toNat / 16), Nat.digitChar (c.toNat % 16)]
  else [c]

def renderString (s : String) : List Char :=
  '"' :: s.toList.flatMap escapeChar ++ ['"']

/-! ## Values -/

mutual

def Value.render : Value → List Char
  | .null => "null".toList
  | .bool true => "true".toList
  | .bool false => "false".toList
  | .integer i => renderInteger i
  | .double x => x.write doubleNotation
  | .string s => renderString s
  | .array items => '[' :: renderItems items ++ [']']
  | .object members => '\x7b' :: renderMembers members ++ ['\x7d']

def renderItems : List Value → List Char
  | [] => []
  | v :: rest => v.render ++ renderMoreItems rest

def renderMoreItems : List Value → List Char
  | [] => []
  | v :: rest => ',' :: v.render ++ renderMoreItems rest

def renderMembers : List (String × Value) → List Char
  | [] => []
  | (key, v) :: rest => renderString key ++ ':' :: v.render ++ renderMoreMembers rest

def renderMoreMembers : List (String × Value) → List Char
  | [] => []
  | (key, v) :: rest => ',' :: renderString key ++ ':' :: v.render ++ renderMoreMembers rest

end

def Value.compact (v : Value) : String :=
  String.ofList v.render

end NotebookKernel.Json
