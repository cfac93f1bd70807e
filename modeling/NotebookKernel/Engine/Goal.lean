import NotebookKernel.Text.Blank

/-! # Goals

An open goal is printed as one hypothesis a line, then a turnstile and the target.
`Goal.parse` takes such a text apart; `Goal.render` writes one.
-/

namespace NotebookKernel

open NotebookKernel.Text (trim lines)

def turnstile : Char := '⊢'

structure Goal where
  /-- The place of the goal among those of its response, from zero. -/
  id : Nat
  hypotheses : List String
  target : String
  raw : String
  deriving Repr, DecidableEq

/-- The hypotheses in the text before the turnstile: its lines without the blanks around
    them, blank lines left out. -/
def hypothesisLines (cs : List Char) : List (List Char) :=
  ((lines cs).map trim).filter (!·.isEmpty)

/-- Take the text of a goal apart at its first turnstile.  A text without a turnstile is all
    target. -/
def Goal.parse (id : Nat) (raw : String) : Goal :=
  let (before, after) := raw.toList.span (· != turnstile)
  match after with
  | [] => { id, hypotheses := [], target := raw, raw }
  | _ :: target =>
    { id
      hypotheses := (hypothesisLines before).map String.ofList
      target := String.ofList (trim target)
      raw }

/-- The text of hypotheses and a target. -/
def Goal.render (hypotheses : List (List Char)) (target : List Char) : List Char :=
  hypotheses.flatMap (· ++ ['\n']) ++ turnstile :: ' ' :: target

end NotebookKernel
