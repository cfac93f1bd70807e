/-! # Sets of code points

Properties of characters are given as ascending lists of closed ranges of code
points.  `CodePoints.contains` looks a code point up and stops at the first range
that begins past it; `contains_cons` and `not_contains_of_lt` are its two steps.
-/

namespace NotebookKernel.Text

/-- Closed ranges of code points, in ascending order and disjoint. -/
abbrev CodePoints := List (Nat × Nat)

def CodePoints.contains : CodePoints → Nat → Bool
  | [], _ => false
  | (lo, hi) :: rest, n => if n < lo then false else n ≤ hi || CodePoints.contains rest n

theorem CodePoints.not_contains_of_lt {lo hi n : Nat} (rest : CodePoints) (h : n < lo) :
    CodePoints.contains ((lo, hi) :: rest) n = false := by
  simp [CodePoints.contains, h]

theorem CodePoints.contains_cons {lo hi n : Nat} (rest : CodePoints) (hlo : lo ≤ n) (hhi : n ≤ hi) :
    CodePoints.contains ((lo, hi) :: rest) n = true := by
  simp [CodePoints.contains, hhi, Nat.not_lt.mpr hlo]

end NotebookKernel.Text
