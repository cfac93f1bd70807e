import NotebookKernel.Schedule.Agenda

/-! # Tasks that take turns

Tasks share a state `σ` that one of them has to itself at a time.  A task that finds the
state taken waits in line; whoever gives it up hands it to the first in line.  A
`Discipline` says what a task `τ` does with its turn and what it answers; `run` plays a list
of tasks, each of which may come later than the others.
-/

namespace NotebookKernel.Schedule

inductive Turn (σ ρ : Type) where
  | done (result : ρ) (state : σ)
  /-- It keeps its turn for a while. -/
  | busy (state : σ) (duration : Nat)

structure Discipline (σ τ ρ : Type) where
  /-- The answer of a task that needs no turn. -/
  glance : σ → τ → Option ρ
  enter : σ → τ → Turn σ ρ
  leave : σ → τ → ρ × σ

inductive Stage where
  | spawned
  | arrived
  | admitted
  | finished
  deriving Repr, DecidableEq

structure Play (σ τ ρ : Type) where
  agenda : Agenda (Nat × τ × Nat × Stage)
  state : σ
  taken : Bool
  /-- The tasks that wait for their turn, the first one first. -/
  line : List (Nat × τ × Nat)
  answers : List (Nat × ρ)

namespace Play

variable {σ τ ρ : Type}

def answer (p : Play σ τ ρ) (id : Nat) (result : ρ) : Play σ τ ρ :=
  { p with answers := (id, result) :: p.answers }

def release (p : Play σ τ ρ) : Play σ τ ρ :=
  match p.line with
  | [] => { p with taken := false }
  -- the state stays taken and passes from hand to hand
  | (id, t, after) :: line =>
    { p with line, agenda := p.agenda.wake (id, t, after, .admitted) }

def finish (D : Discipline σ τ ρ) (p : Play σ τ ρ) (id : Nat) (t : τ) : Play σ τ ρ :=
  let (result, state) := D.leave p.state t
  ({ p with state }.answer id result).release

def callIn (D : Discipline σ τ ρ) (p : Play σ τ ρ) (id : Nat) (t : τ) (after : Nat) : Play σ τ ρ :=
  match D.enter p.state t with
  | .done result state => ({ p with state }.answer id result).release
  | .busy state duration =>
    let p := { p with state }
    -- nobody else runs in between if it takes no time
    if duration = 0 then p.finish D id t
    else { p with agenda := p.agenda.sleep duration (id, t, after, .finished) }

/-- A task looks at the state and waits for its turn if it needs one. -/
def arrive (D : Discipline σ τ ρ) (p : Play σ τ ρ) (id : Nat) (t : τ) (after : Nat) : Play σ τ ρ :=
  match D.glance p.state t with
  | some result => p.answer id result
  | none =>
    if p.taken then { p with line := p.line ++ [(id, t, after)] }
    else { p with taken := true }.callIn D id t after

def step (D : Discipline σ τ ρ) (p : Play σ τ ρ) : Nat × τ × Nat × Stage → Play σ τ ρ
  | (id, t, after, .spawned) =>
    if after = 0 then p.arrive D id t after
    else { p with agenda := p.agenda.sleep after (id, t, after, .arrived) }
  | (id, t, after, .arrived) => p.arrive D id t after
  | (id, t, after, .admitted) => p.callIn D id t after
  | (id, t, _, .finished) => p.finish D id t

/-- Run tasks until nothing is left to do, or for a number of steps. -/
def loop (D : Discipline σ τ ρ) : Nat → Play σ τ ρ → Play σ τ ρ
  | 0, p => p
  | steps + 1, p =>
    match p.agenda.next with
    | none => p
    | some (wake, agenda) => loop D steps ({ p with agenda }.step D wake)

end Play

/-- Play tasks that come so many milliseconds after the start: the state behind them, and
    their answers in the order of the tasks.  A task is woken four times at most. -/
def Discipline.run {σ τ ρ : Type} (D : Discipline σ τ ρ) (state : σ) (tasks : List (Nat × τ)) :
    σ × List (Option ρ) :=
  let wakes := tasks.zipIdx.map fun ((after, t), id) => (id, t, after, Stage.spawned)
  let p : Play σ τ ρ :=
    { agenda := .start wakes, state, taken := false, line := [], answers := [] }
  let p := p.loop D (4 * tasks.length)
  (p.state, (List.range tasks.length).map fun id => p.answers.lookup id)

end NotebookKernel.Schedule
