import NotebookKernel.Decimal.Binary64

/-! # The shortest decimal notation of a double

Every real number between the midpoints to the two neighbours of a double reads back as
that double, the midpoints included if its mantissa is even.  `shortest` finds the fewest
digits of a decimal number in that interval, trying one digit, two digits and so on: at
each length only the two neighbours of the double on the decimal grid can be in the
interval, and of two hits the nearer one wins.
-/

namespace NotebookKernel.Decimal

/-- A decimal number `0.d₁d₂… · 10 ^ point`, its digits from the first to the last. -/
structure Digits where
  digits : List Nat
  point : Int
  deriving Repr, DecidableEq

/-- The reals that read back as a positive double, in units of a quarter of its last binary
    place: `(4m - below, 4m + 2)` times `2 ^ (exponent - 2)`. -/
structure Interval where
  centre : Nat
  below : Nat
  closed : Bool
  unit : Int
  deriving Repr

/-- The interval of a positive magnitude.  Just above a power of two the lower neighbour is
    only half as far away. -/
def Interval.of (x : Magnitude) : Interval where
  centre := 4 * x.mantissa
  below := if x.mantissa = Nat.pow 2 52 && leastExponent < x.exponent then 1 else 2
  closed := x.mantissa % 2 == 0
  unit := x.exponent - 2

/-- The least `p` with `num / den < 10 ^ p`, for a positive quotient. -/
def decimalPoint (num den : Nat) : Int :=
  let p : Int := ((Nat.toDigits 10 num).length : Int) - ((Nat.toDigits 10 den).length : Int)
  if num * Nat.pow 10 (-p).toNat < den * Nat.pow 10 p.toNat then p else p + 1

/-- Whether `d` steps of a grid of width `step` fall into the interval; all numbers are in
    one common unit, of which the interval's own unit holds `scale`. -/
def Interval.holds (i : Interval) (scale step d : Nat) : Bool :=
  let lo := (i.centre - i.below) * scale
  let hi := (i.centre + 2) * scale
  let at_ := d * step
  if i.closed then lo ≤ at_ && at_ ≤ hi else lo < at_ && at_ < hi

/-- The grid point of `n` digits in the interval that is nearest to the double, if any. -/
def Interval.gridPoint (i : Interval) (point : Int) (n : Nat) : Option Nat :=
  let g := point - n
  -- the common unit makes whole numbers of the unit of the interval and of a step of the grid
  let scale := Nat.pow 2 i.unit.toNat * Nat.pow 10 (-g).toNat
  let step := Nat.pow 2 (-i.unit).toNat * Nat.pow 10 g.toNat
  let d := i.centre * scale / step
  match i.holds scale step d, i.holds scale step (d + 1) with
  | false, false => none
  | true, false => some d
  | false, true => some (d + 1)
  -- of two hits the nearer one wins, and of two that are equally near the even one
  | true, true =>
    let below := i.centre * scale - d * step
    let above := (d + 1) * step - i.centre * scale
    if below < above then some d
    else if above < below then some (d + 1)
    else if d % 2 = 0 then some d
    else some (d + 1)

def decimalDigits (n : Nat) : List Nat :=
  (Nat.toDigits 10 n).map fun c => c.toNat - '0'.toNat

def dropTrailingZeros (digits : List Nat) : List Nat :=
  (digits.reverse.dropWhile (· == 0)).reverse

/-- The first length from `n` on that has a grid point in the interval. -/
def Interval.search (i : Interval) (point : Int) (n : Nat) : Nat → Digits
  | 0 => ⟨[], point⟩
  | more + 1 =>
    match i.gridPoint point n with
    | none => i.search point (n + 1) more
    | some d =>
      let digits := decimalDigits d
      -- the upper neighbour may be a power of ten with one digit more
      ⟨dropTrailingZeros digits, point + (digits.length - n)⟩

/-- The shortest digits of a positive magnitude; seventeen always suffice. -/
def shortest (x : Magnitude) : Digits :=
  let (num, den) := x.ratio
  (Interval.of x).search (decimalPoint num den) 1 17

end NotebookKernel.Decimal
