import NotebookKernel.Text.Alphanumeric

/-! # The identifier at a cursor

A cursor stands between two characters of a cell.  `Span.at` is the maximal run of
identifier characters around it, which is empty if no such character touches the cursor.
-/

namespace NotebookKernel.Cell

/-- Characters of a Lean identifier, which may be qualified. -/
def isIdentifierChar (c : Char) : Bool :=
  Text.isAlphanumeric c || c == '_' || c == '\'' || c == '.'

/-- A part of a cell; the offsets count characters, and `stop` is the first one behind it. -/
structure Span where
  text : List Char
  start : Nat
  stop : Nat
  deriving Repr, DecidableEq

/-- The identifier around a cursor.  A cursor past the end stands at the end. -/
def Span.at (cs : List Char) (cursor : Nat) : Span :=
  let cursor := min cursor cs.length
  -- the run extends from the cursor in both directions
  let before := (cs.take cursor).reverse.takeWhile isIdentifierChar
  let after := (cs.drop cursor).takeWhile isIdentifierChar
  { text := before.reverse ++ after
    start := cursor - before.length
    stop := cursor + after.length }

def Span.isEmpty (s : Span) : Bool :=
  s.text.isEmpty

def Span.name (s : Span) : String :=
  String.ofList s.text

end NotebookKernel.Cell
