/-! # Double precision numbers

A finite double is a sign and a magnitude `mantissa · 2 ^ exponent` with fewer than 54
bits.  All arithmetic is exact arithmetic of natural numbers followed by one rounding,
`roundRatio`: to the nearest magnitude, a half going to the even mantissa, with gradual
underflow, and no result where the magnitude would be infinite.
-/

namespace NotebookKernel.Decimal

/-- The magnitude of a finite double: `mantissa · 2 ^ exponent`. -/
structure Magnitude where
  /-- Below `2 ^ 53`; at least `2 ^ 52` unless the exponent is the least one. -/
  mantissa : Nat
  exponent : Int
  deriving Repr, DecidableEq, Inhabited

structure Binary64 where
  negative : Bool
  magnitude : Magnitude
  deriving Repr, DecidableEq, Inhabited

/-! ## Rounding -/

/-- The exponent of subnormal magnitudes, the least there is. -/
def leastExponent : Int := -1074

def greatestExponent : Int := 971

def Magnitude.zero : Magnitude := ⟨0, leastExponent⟩

/-- The quotient `num / den` to the nearest whole number, a half going to the even one. -/
def roundDiv (num den : Nat) : Nat :=
  let q := num / den
  let r := num % den
  if 2 * r < den then q
  else if den < 2 * r then q + 1
  else if q % 2 = 0 then q
  else q + 1

/-- Numerator and denominator of `num / den / 2 ^ e`. -/
def scaleDown (num den : Nat) (e : Int) : Nat × Nat :=
  if 0 ≤ e then (num, den * Nat.pow 2 e.toNat) else (num * Nat.pow 2 (-e).toNat, den)

/-- The greatest `k` with `2 ^ k ≤ num / den`, for a positive quotient. -/
def binaryExponent (num den : Nat) : Int :=
  let k : Int := (num.log2 : Int) - (den.log2 : Int)
  let (n, d) := scaleDown num den k
  -- the bit lengths leave two candidates
  if d ≤ n then k else k - 1

/-- The magnitude nearest to `num / den`; `none` if that is not finite. -/
def roundRatio (num den : Nat) : Option Magnitude :=
  if num = 0 then some .zero
  else
    -- 53 bits are kept, and fewer where the exponent cannot get smaller
    let e := max (binaryExponent num den - 52) leastExponent
    let (n, d) := scaleDown num den e
    let m := roundDiv n d
    -- rounding up may carry into a 54th bit
    let rounded : Magnitude := if m = Nat.pow 2 53 then ⟨Nat.pow 2 52, e + 1⟩ else ⟨m, e⟩
    if rounded.exponent ≤ greatestExponent then some rounded else none

/-! ## Arithmetic -/

def Magnitude.ratio (x : Magnitude) : Nat × Nat :=
  scaleDown x.mantissa 1 (-x.exponent)

/-- The magnitude nearest to a natural number below the range of doubles. -/
def Magnitude.ofNat (n : Nat) : Magnitude :=
  (roundRatio n 1).getD .zero

def Magnitude.mul (x y : Magnitude) : Option Magnitude :=
  roundRatio (x.ratio.1 * y.ratio.1) (x.ratio.2 * y.ratio.2)

def Magnitude.div (x y : Magnitude) : Option Magnitude :=
  roundRatio (x.ratio.1 * y.ratio.2) (x.ratio.2 * y.ratio.1)

/-! ## Reading decimal notation -/

def powerOfTen (k : Nat) : Magnitude :=
  .ofNat (Nat.pow 10 k)

def greatestPower : Nat := 308

/-- Divide by powers of ten, `greatestPower` places at a time.  A significand of 64 bits is
    exhausted after two full steps, so `steps` need not exceed three. -/
def divideByPowers (x : Magnitude) (places : Nat) : Nat → Magnitude
  | 0 => .zero
  | steps + 1 =>
    if places ≤ greatestPower then (x.div (powerOfTen places)).getD .zero
    else if x.mantissa = 0 then x
    else
      divideByPowers ((x.div (powerOfTen greatestPower)).getD .zero) (places - greatestPower) steps

/-- The double for `significand · 10 ^ exponent`, reached by rounding the significand first
    and then one multiplication or division by each power of ten; `none` if it is not finite. -/
def Binary64.ofDecimal (negative : Bool) (significand : Nat) (exponent : Int) : Option Binary64 :=
  let x := Magnitude.ofNat significand
  if 0 ≤ exponent then
    if exponent ≤ greatestPower then
      (x.mul (powerOfTen exponent.toNat)).map (⟨negative, ·⟩)
    else if x.mantissa = 0 then some ⟨negative, x⟩
    else none
  else some ⟨negative, divideByPowers x (-exponent).toNat 3⟩

end NotebookKernel.Decimal
