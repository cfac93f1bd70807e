/-! # Blank characters, trimming and lines

`isBlank` is the Unicode property White_Space.  Trimming removes blank characters from
the ends of a text; `lines` cuts a text at its newlines, dropping one carriage return
before each of them.
-/

namespace NotebookKernel.Text

/-! ## Blank characters -/

/-- The Unicode property White_Space. -/
def isBlank (c : Char) : Bool :=
  let n := c.toNat
  (0x09 ≤ n && n ≤ 0x0D) || n == 0x20 || n == 0x85 || n == 0xA0 || n == 0x1680 ||
    (0x2000 ≤ n && n ≤ 0x200A) || n == 0x2028 || n == 0x2029 || n == 0x202F || n == 0x205F ||
    n == 0x3000

/-! ## Trimming -/

def trimEnd (cs : List Char) : List Char :=
  (cs.reverse.dropWhile isBlank).reverse

def trim (cs : List Char) : List Char :=
  trimEnd (cs.dropWhile isBlank)

def isBlankText (cs : List Char) : Bool :=
  cs.all isBlank

/-! ## Lines -/

/-- Remove one carriage return from the front of a reversed line. -/
def dropReturn : List Char → List Char
  | '\r' :: rest => rest
  | cs => cs

/-- `lines` with the reversed characters of the line being read. -/
def linesFrom (current : List Char) : List Char → List (List Char)
  | [] => if current.isEmpty then [] else [current.reverse]
  | c :: rest =>
    if c = '\n' then (dropReturn current).reverse :: linesFrom [] rest
    else linesFrom (c :: current) rest

/-- The lines of a text without their ends.  A newline ends a line, together with one
    carriage return before it; nothing after the last newline is no line. -/
def lines (cs : List Char) : List (List Char) :=
  linesFrom [] cs

end NotebookKernel.Text
