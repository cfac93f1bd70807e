import NotebookKernel.Decimal.Shortest

/-! # Written doubles

A `Notation` record holds the decisions that the digits of a number leave open: which
exponents are written positionally, what follows a whole number, and how an exponent is
marked.  `Binary64.write` follows them.
-/

namespace NotebookKernel.Decimal

/-- How the digits of a number are laid out. -/
structure Notation where
  /-- The least exponent of the first digit that is written positionally. -/
  leastPositional : Int
  greatestPositional : Int
  /-- What follows a whole number written positionally. -/
  wholeSuffix : List Char
  /-- What stands before the exponent. -/
  exponentMark : List Char
  plusSign : List Char

def digitChars (digits : List Nat) : List Char :=
  digits.map Nat.digitChar

def Digits.positional (d : Digits) (n : Notation) : List Char :=
  let cs := digitChars d.digits
  if d.point ≤ 0 then ['0', '.'] ++ List.replicate (-d.point).toNat '0' ++ cs
  else
    let whole := d.point.toNat
    if cs.length ≤ whole then
      cs ++ List.replicate (whole - cs.length) '0' ++ n.wholeSuffix
    else cs.take whole ++ '.' :: cs.drop whole

def Digits.scientific (d : Digits) (n : Notation) : List Char :=
  let exponent := d.point - 1
  let sign := if exponent < 0 then ['-'] else n.plusSign
  let tail := sign ++ Nat.toDigits 10 exponent.natAbs
  match digitChars d.digits with
  | [] => []
  | [c] => c :: n.exponentMark ++ tail
  | c :: cs => c :: '.' :: cs ++ n.exponentMark ++ tail

/-- The digits in the layout that the exponent of the first one calls for. -/
def Digits.write (d : Digits) (n : Notation) : List Char :=
  let exponent := d.point - 1
  if n.leastPositional ≤ exponent && exponent ≤ n.greatestPositional then d.positional n
  else d.scientific n

/-- The shortest text that reads back as the double; zero keeps its sign. -/
def Binary64.write (x : Binary64) (n : Notation) : List Char :=
  let sign := if x.negative then ['-'] else []
  if x.magnitude.mantissa = 0 then sign ++ '0' :: n.wholeSuffix
  else sign ++ (shortest x.magnitude).write n

end NotebookKernel.Decimal
