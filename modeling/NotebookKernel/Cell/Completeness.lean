import NotebookKernel.Text.Blank

/-! # Whether a cell is complete

A scanner counts the brackets of a cell outside its string literals and line comments.  A
cell is incomplete if it is blank, leaves a string or a bracket open, or mentions `by`
without ending like a finished statement.
-/

namespace NotebookKernel.Cell

inductive Completeness where
  | complete
  | incomplete
  deriving Repr, DecidableEq

def Completeness.name : Completeness → String
  | .complete => "complete"
  | .incomplete => "incomplete"

/-! ## Scanning -/

/-- What the scanner is inside of. -/
inductive Mode where
  | code
  /-- A string literal; `escaped` after a backslash that has not been used up. -/
  | literal (escaped : Bool)
  | comment
  deriving Repr, DecidableEq

/-- How many brackets of each kind are open; surplus closing brackets count below zero. -/
structure Depths where
  parens : Int
  braces : Int
  brackets : Int
  deriving Repr, DecidableEq

def Depths.zero : Depths := ⟨0, 0, 0⟩

def Depths.next (d : Depths) (c : Char) : Depths :=
  if c = '(' then { d with parens := d.parens + 1 }
  else if c = ')' then { d with parens := d.parens - 1 }
  else if c = '\x7b' then { d with braces := d.braces + 1 }
  else if c = '\x7d' then { d with braces := d.braces - 1 }
  else if c = '[' then { d with brackets := d.brackets + 1 }
  else if c = ']' then { d with brackets := d.brackets - 1 }
  else d

def Depths.isOpen (d : Depths) : Bool :=
  0 < d.parens || 0 < d.braces || 0 < d.brackets

/-- Scan a text that begins in the given mode: the mode and the depths behind it. -/
def scan (mode : Mode) (d : Depths) : List Char → Mode × Depths
  | [] => (mode, d)
  | c :: rest =>
    match mode with
    -- a backslash uses up one character, be it a quote or another backslash
    | .literal true => scan (.literal false) d rest
    | .literal false =>
      if c = '\\' then scan (.literal true) d rest
      else if c = '"' then scan .code d rest
      else scan (.literal false) d rest
    | .comment => if c = '\n' then scan .code d rest else scan .comment d rest
    | .code =>
      if c = '"' then scan (.literal false) d rest
      else if c = '-' then
        match rest with
        | [] => (.code, d)
        | c' :: rest' =>
          -- a single dash is code like any other
          if c' = '-' then scan .comment d rest' else scan .code d (c' :: rest')
      else scan .code (d.next c) rest

/-! ## The verdict -/

/-- Whether the letters `by` occur, be it inside a word. -/
def mentionsBy : List Char → Bool
  | [] => false
  | c :: rest => (c == 'b' && rest.head? == some 'y') || mentionsBy rest

/-- Whether a text ends as a finished tactic block does. -/
def endsStatement (cs : List Char) : Bool :=
  cs.getLast? == some '.' || cs.getLast? == some ')'

def Mode.isLiteral : Mode → Bool
  | .literal _ => true
  | _ => false

/-- Whether a cell can be run as it stands. -/
def completeness (cs : List Char) : Completeness :=
  let text := Text.trimEnd cs
  let (mode, depths) := scan .code .zero text
  if text.isEmpty || depths.isOpen || mode.isLiteral then .incomplete
  -- `by` counts wherever it stands, in a string or a comment too
  else if mentionsBy text && !endsStatement text then .incomplete
  else .complete

end NotebookKernel.Cell
