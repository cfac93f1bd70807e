import NotebookKernel.Handle

/-! # The timeline of a handle

Tasks share a handle through a lock.  Whoever has the lock creates the engine, uses it or
closes the handle; all others wait.  `Timeline.step` lets one thing happen, whatever it is,
and writes down what can be seen of it; what is impossible at the moment does not happen.

`Timeline.Transition` lists what a step can come to.  Invariants are proved from its cases
and never look into `step` again.
-/

namespace NotebookKernel.Handle

variable {ε : Type}

/-- What the task with the lock is doing. -/
inductive Holder where
  | creating
  | inUse
  /-- It has closed the handle and waits for the shutdown of the engine, if there was one. -/
  | closing (released : Bool)
  deriving DecidableEq

/-- What happens next.  A task that wants the lock gets it at some moment when it is free. -/
inductive Act (ε : Type) where
  | init
  | made (result : Except EngineError ε)
  /-- The factory is dropped while it runs. -/
  | abandon
  | acquire
  /-- The task that has acquired the engine does something with it. -/
  | use (f : ε → ε)
  | release
  | close
  | finish

/-- What can be seen of it. -/
inductive Event where
  | factoryBegan
  | factoryEnded
  | factoryDropped
  /-- An init returns, and says whether it created the engine. -/
  | initReturned (here : Bool)
  | initFailed (e : EngineError)
  | acquired
  | refused (e : EngineError)
  | released
  | shutdown
  | closeReturned (released : Bool)
  deriving DecidableEq

def Event.ofInit : Except EngineError Bool → Event
  | .ok here => .initReturned here
  | .error e => .initFailed e

/-- A handle with its lock and all that has happened. -/
structure Timeline (ε : Type) where
  handle : Handle ε
  holder : Option Holder
  /-- How often a task has got the lock. -/
  turn : Nat
  /-- The events, each with the turn of its task. -/
  events : List (Nat × Event)

namespace Timeline

/-- A handle that nobody has used, without an engine or with one. -/
def start : Option ε → Timeline ε
  | none => { handle := .new, holder := none, turn := 0, events := [] }
  | some e => { handle := .ready e, holder := none, turn := 0, events := [] }

/-- A task gets the lock, if it is free, and does its work up to the point where it waits. -/
def enter (l : Timeline ε) (handle : Handle ε) (holder : Option Holder) (events : List Event) :
    Timeline ε :=
  { handle, holder, turn := l.turn + 1, events := l.events ++ events.map (l.turn + 1, ·) }

def stay (l : Timeline ε) (handle : Handle ε) : Timeline ε :=
  { l with handle }

def leave (l : Timeline ε) (handle : Handle ε) (events : List Event) : Timeline ε :=
  { handle, holder := none, turn := l.turn, events := l.events ++ events.map (l.turn, ·) }

/-- The event of a shutdown, if an engine has been released between two looks at a handle. -/
def shutdowns (before after : Handle ε) : List Event :=
  if before.retired.length < after.retired.length then [.shutdown] else []

/-- Let something happen. -/
def step (shutdown : ε → ε) (l : Timeline ε) (a : Act ε) : Timeline ε :=
  match l.holder, a with
  | none, .init =>
    match l.handle.vacancy with
    | .taken => l.enter l.handle none [.initReturned false]
    | .closed => l.enter l.handle none [.initFailed .sessionClosed]
    | .vacant => l.enter l.handle.beginCreation (some .creating) [.factoryBegan]
  | some .creating, .made result =>
    let (returned, handle) := l.handle.endCreation result
    l.leave handle [.factoryEnded, .ofInit returned]
  | some .creating, .abandon => l.leave l.handle [.factoryDropped]
  | none, .acquire =>
    match l.handle.acquire with
    | .ok _ => l.enter l.handle (some .inUse) [.acquired]
    | .error e => l.enter l.handle none [.refused e]
  | some .inUse, .use f =>
    match l.handle.acquire with
    | .ok e => l.stay (l.handle.putBack (f e))
    | .error _ => l
  | some .inUse, .release => l.leave l.handle [.released]
  | none, .close =>
    let (released, handle) := l.handle.close shutdown
    l.enter handle (some (.closing released)) (shutdowns l.handle handle)
  | some (.closing released), .finish => l.leave l.handle [.closeReturned released]
  | _, _ => l

def play (shutdown : ε → ε) (l : Timeline ε) (acts : List (Act ε)) : Timeline ε :=
  acts.foldl (step shutdown) l

section Parts

variable (l : Timeline ε) (handle : Handle ε) (holder : Option Holder) (events : List Event)

@[simp] theorem handle_enter : (l.enter handle holder events).handle = handle := rfl

@[simp] theorem holder_enter : (l.enter handle holder events).holder = holder := rfl

@[simp] theorem turn_enter : (l.enter handle holder events).turn = l.turn + 1 := rfl

@[simp] theorem handle_stay : (l.stay handle).handle = handle := rfl

@[simp] theorem holder_stay : (l.stay handle).holder = l.holder := rfl

@[simp] theorem turn_stay : (l.stay handle).turn = l.turn := rfl

@[simp] theorem events_stay : (l.stay handle).events = l.events := rfl

@[simp] theorem handle_leave : (l.leave handle events).handle = handle := rfl

@[simp] theorem holder_leave : (l.leave handle events).holder = none := rfl

@[simp] theorem turn_leave : (l.leave handle events).turn = l.turn := rfl

end Parts

/-! ## Events -/

/-- How often something happens in a list of events. -/
def tally (events : List (Nat × Event)) (e : Event) : Nat :=
  (events.map Prod.snd).count e

def count (l : Timeline ε) (e : Event) : Nat :=
  tally l.events e

@[simp] theorem count_enter (l : Timeline ε) (handle : Handle ε) (holder : Option Holder)
    (events : List Event) (e : Event) :
    (l.enter handle holder events).count e = l.count e + events.count e := by
  simp [count, tally, enter, Function.comp_def]

@[simp] theorem count_stay (l : Timeline ε) (handle : Handle ε) (e : Event) :
    (l.stay handle).count e = l.count e := rfl

@[simp] theorem count_leave (l : Timeline ε) (handle : Handle ε) (events : List Event) (e : Event) :
    (l.leave handle events).count e = l.count e + events.count e := by
  simp [count, tally, leave, Function.comp_def]

theorem mem_append_turn {old : List (Nat × Event)} {new : List Event} {n t : Nat} {e : Event} :
    (t, e) ∈ old ++ new.map (n, ·) ↔ (t, e) ∈ old ∨ (t = n ∧ e ∈ new) := by
  simp only [List.mem_append, List.mem_map, Prod.mk.injEq]
  constructor
  · rintro (before | ⟨_, member, rfl, rfl⟩)
    · exact .inl before
    · exact .inr ⟨rfl, member⟩
  · rintro (before | ⟨rfl, member⟩)
    · exact .inl before
    · exact .inr ⟨e, member, rfl, rfl⟩

theorem mem_enter {l : Timeline ε} {handle : Handle ε} {holder : Option Holder}
    {events : List Event} {t : Nat} {e : Event} :
    (t, e) ∈ (l.enter handle holder events).events ↔
      (t, e) ∈ l.events ∨ (t = l.turn + 1 ∧ e ∈ events) :=
  mem_append_turn

theorem mem_leave {l : Timeline ε} {handle : Handle ε} {events : List Event} {t : Nat} {e : Event} :
    (t, e) ∈ (l.leave handle events).events ↔
      (t, e) ∈ l.events ∨ (t = l.turn ∧ e ∈ events) :=
  mem_append_turn

theorem handle_init (shutdown : ε → ε) (l : Timeline ε) (free : l.holder = none)
    (create : Except EngineError ε) :
    (l.play shutdown [.init, .made create]).handle = (l.handle.init create).2 := by
  obtain ⟨⟨phase, slot, retired⟩, holder, turn, events⟩ := l
  cases free
  cases phase with
  | ready | closed => rfl
  | uninitialized | initializing => cases create <;> rfl

/-! ## What a step can come to -/

/-- The changes of a handle and its lock. -/
inductive Transition (shutdown : ε → ε) (l : Timeline ε) : Timeline ε → Prop where
  | superfluous (free : l.holder = none) (ready : l.handle.phase = .ready) :
    Transition shutdown l (l.enter l.handle none [.initReturned false])
  /-- A task that wants to create the engine finds the handle closed. -/
  | tooLate (free : l.holder = none) (closed : l.handle.phase = .closed) :
    Transition shutdown l (l.enter l.handle none [.initFailed .sessionClosed])
  | begin (free : l.holder = none) (unready : l.handle.phase ≠ .ready)
      (open_ : l.handle.phase ≠ .closed) :
    Transition shutdown l (l.enter l.handle.beginCreation (some .creating) [.factoryBegan])
  | create (e : ε) (creating : l.holder = some .creating) :
    Transition shutdown l (l.leave { l.handle with phase := .ready, slot := some e }
      [.factoryEnded, .initReturned true])
  | fail (err : EngineError) (creating : l.holder = some .creating) :
    Transition shutdown l (l.leave { l.handle with phase := .uninitialized }
      [.factoryEnded, .initFailed err])
  | abandon (creating : l.holder = some .creating) :
    Transition shutdown l (l.leave l.handle [.factoryDropped])
  | acquire (e : ε) (free : l.holder = none) (full : l.handle.slot = some e) :
    Transition shutdown l (l.enter l.handle (some .inUse) [.acquired])
  | refuse (free : l.holder = none) (empty : l.handle.slot = none) :
    Transition shutdown l (l.enter l.handle none [.refused .sessionClosed])
  | use (e : ε) (inUse : l.holder = some .inUse) (full : l.handle.slot.isSome) :
    Transition shutdown l (l.stay (l.handle.putBack e))
  | release (inUse : l.holder = some .inUse) :
    Transition shutdown l (l.leave l.handle [.released])
  | closeFull (e : ε) (free : l.holder = none) (full : l.handle.slot = some e) :
    Transition shutdown l
      (l.enter { phase := .closed, slot := none, retired := shutdown e :: l.handle.retired }
        (some (.closing true)) [.shutdown])
  | closeEmpty (free : l.holder = none) (empty : l.handle.slot = none) :
    Transition shutdown l (l.enter { l.handle with phase := .closed } (some (.closing false)) [])
  | finish (released : Bool) (closing : l.holder = some (.closing released)) :
    Transition shutdown l (l.leave l.handle [.closeReturned released])

theorem step_cases (shutdown : ε → ε) (l : Timeline ε) (a : Act ε) :
    l.step shutdown a = l ∨ Transition shutdown l (l.step shutdown a) := by
  obtain ⟨⟨phase, slot, retired⟩, holder, turn, events⟩ := l
  cases holder with
  | none =>
    cases a with
    | init =>
      cases phase with
      | ready => exact .inr (.superfluous rfl rfl)
      | closed => exact .inr (.tooLate rfl rfl)
      | uninitialized | initializing => exact .inr (.begin rfl nofun nofun)
    | acquire =>
      cases slot with
      | some e => exact .inr (.acquire e rfl rfl)
      | none => exact .inr (.refuse rfl rfl)
    | close =>
      cases slot with
      | some e =>
        have released : shutdowns ⟨phase, some e, retired⟩
            { phase := .closed, slot := none, retired := shutdown e :: retired } = [.shutdown] :=
          if_pos (Nat.lt_succ_self _)
        simp only [step, Handle.close, released]
        exact .inr (.closeFull e rfl rfl)
      | none =>
        have nothing : shutdowns ⟨phase, none, retired⟩ { phase := .closed, slot := none, retired } = [] :=
          if_neg (Nat.lt_irrefl _)
        simp only [step, Handle.close, nothing]
        exact .inr (.closeEmpty rfl rfl)
    | made | abandon | use | release | finish => exact .inl rfl
  | some holder =>
    cases holder with
    | creating =>
      cases a with
      | made result =>
        cases result with
        | ok e => exact .inr (.create e rfl)
        | error err => exact .inr (.fail err rfl)
      | abandon => exact .inr (.abandon rfl)
      | init | acquire | use | release | close | finish => exact .inl rfl
    | inUse =>
      cases a with
      | use f =>
        cases slot with
        | some e => exact .inr (.use (f e) rfl rfl)
        | none => exact .inl rfl
      | release => exact .inr (.release rfl)
      | init | made | abandon | acquire | close | finish => exact .inl rfl
    | closing released =>
      cases a with
      | finish => exact .inr (.finish released rfl)
      | init | made | abandon | acquire | use | release | close => exact .inl rfl

end Timeline

end NotebookKernel.Handle
