/-! # Agendas

A cooperative scheduler runs one task at a time, in the order in which the tasks were
woken.  When no task is ready, time jumps to the next timer, and the tasks whose timers are
due then become ready in the order in which they went to sleep.
-/

namespace NotebookKernel.Schedule

/-- What is to be run: tasks `τ` that are ready, and tasks that sleep until a time. -/
structure Agenda (τ : Type) where
  now : Nat
  ready : List τ
  /-- Timers in the order in which they were set. -/
  timers : List (Nat × τ)

namespace Agenda

variable {τ : Type}

def start (tasks : List τ) : Agenda τ :=
  { now := 0, ready := tasks, timers := [] }

/-- Make a task ready, behind those that are. -/
def wake (a : Agenda τ) (t : τ) : Agenda τ :=
  { a with ready := a.ready ++ [t] }

def sleep (a : Agenda τ) (duration : Nat) (t : τ) : Agenda τ :=
  { a with timers := a.timers ++ [(a.now + duration, t)] }

/-- Set the timers of a task anew: they keep their times, but count as the latest ones set. -/
def renew [BEq τ] (a : Agenda τ) (t : τ) : Agenda τ :=
  let (own, others) := a.timers.partition fun timer => timer.2 == t
  { a with timers := others ++ own }

def nextTimer (a : Agenda τ) : Option Nat :=
  (a.timers.map Prod.fst).min?

/-- Let time pass to the next timer if no task is ready. -/
def advance (a : Agenda τ) : Agenda τ :=
  match a.ready, a.nextTimer with
  | [], some due =>
    let (due_, later) := a.timers.partition fun timer => timer.1 ≤ due
    { now := due, ready := due_.map Prod.snd, timers := later }
  | _, _ => a

/-- Take the next task; `none` if nothing is left to do. -/
def next (a : Agenda τ) : Option (τ × Agenda τ) :=
  let a := a.advance
  match a.ready with
  | [] => none
  | t :: rest => some (t, { a with ready := rest })

/-- Take the next task as `next` does, but an urgent one before all others. -/
def nextUrgent (urgent : τ → Bool) (a : Agenda τ) : Option (τ × Agenda τ) :=
  let a := a.advance
  next { a with ready := a.ready.filter urgent ++ a.ready.filter (!urgent ·) }

end Agenda

end NotebookKernel.Schedule
