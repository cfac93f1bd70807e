import NotebookKernel.Launch.Runtime

/-! # Bootstrapping the runtime

Any number of calls ask for the runtime, each with a launch of its own.  A call that finds a runtime
takes it; the others wait, and one of them at a time resolves its own launch.  `Bootstrap.step` lets
one thing happen; what is impossible at the moment does not happen.

A bootstrap has three stages (`Stage`): nothing is made and nobody tries, somebody tries, or the
runtime is made.  All attempts before the last one have failed in each of them, so that the runtime
is that of the first success.
-/

namespace NotebookKernel.Runtime

/-- A call for the runtime, with the files as its resolution finds them. -/
structure Call where
  launch : Launch
  files : Files

/-- What the call would come to on its own. -/
def Call.outcome (c : Call) : Except EngineError Runtime :=
  resolve c.files c.launch

def Call.attempt (c : Call) (number : Nat) : Once.Attempt Runtime :=
  { id := number, delay := 0, make := c.outcome }

theorem resolve_eq_error {files : Files} {l : Launch} {e : EngineError}
    (fails : resolve files l = .error e) : ∃ reason, e = .bootstrap reason := by
  unfold resolve at fails
  split at fails
  · cases fails
    exact ⟨_, rfl⟩
  · split at fails
    · cases fails
    · cases fails
      exact ⟨_, rfl⟩

/-- A runtime has the program and the directory of one launch. -/
theorem resolve_eq_ok {files : Files} {l : Launch} {r : Runtime}
    (succeeds : resolve files l = .ok r) :
    ∃ place, files.locate l.directory = .ok place ∧ Project.hasLakefile files place.path = true ∧
      r = { program := l.program, directory := place.path } := by
  unfold resolve at succeeds
  split at succeeds
  · cases succeeds
  · next place located =>
    split at succeeds
    · next lakefile =>
      cases succeeds
      exact ⟨place, located, lakefile, rfl⟩
    · cases succeeds

/-! ## What can happen -/

/-- The cell of the runtime, with all calls for it and what they were told. -/
structure Bootstrap where
  shared : Once.Shared Runtime
  /-- The calls in the order in which they came; a call is named by its place. -/
  calls : List Call
  waiting : List (Nat × Call)
  /-- The call whose resolution is running. -/
  turn : Option (Nat × Call)
  results : List (Nat × Except EngineError Runtime)

inductive Act where
  | call (c : Call)
  /-- A call that waits gets its turn, when nobody has it. -/
  | enter (i : Nat)
  /-- The resolution that is running ends; there is nothing in it at which it could be dropped. -/
  | finish
  /-- A call that waits is dropped. -/
  | drop (i : Nat)

namespace Bootstrap

def new : Bootstrap :=
  { shared := { cell := .empty, ran := [] }, calls := [], waiting := [], turn := none, results := [] }

def answer (b : Bootstrap) (number : Nat) (result : Except EngineError Runtime) : Bootstrap :=
  { b with results := b.results ++ [(number, result)] }

def step (b : Bootstrap) : Act → Bootstrap
  | .call c =>
    let number := b.calls.length
    let b := { b with calls := b.calls ++ [c] }
    match Once.discipline.glance b.shared (c.attempt number) with
    | some result => b.answer number result
    | none => { b with waiting := b.waiting ++ [(number, c)] }
  | .enter i =>
    match b.turn, b.waiting[i]? with
    | none, some (number, c) =>
      let b := { b with waiting := b.waiting.eraseIdx i }
      match Once.discipline.enter b.shared (c.attempt number) with
      | .done result shared => { b with shared }.answer number result
      | .busy shared _ => { b with shared, turn := some (number, c) }
    | _, _ => b
  | .finish =>
    match b.turn with
    | some (number, c) =>
      let (result, shared) := Once.discipline.leave b.shared (c.attempt number)
      { b with shared, turn := none }.answer number result
    | none => b
  | .drop i => { b with waiting := b.waiting.eraseIdx i }

def play (b : Bootstrap) (acts : List Act) : Bootstrap :=
  acts.foldl step b

/-! ## What a step can come to -/

/-- The changes of a bootstrap.  A resolution runs only while there is no runtime. -/
inductive Transition (b : Bootstrap) : Bootstrap → Prop where
  /-- A call finds the runtime. -/
  | find (c : Call) (r : Runtime) (made : b.shared.cell.value = some r) :
    Transition b { b with
      calls := b.calls ++ [c], results := b.results ++ [(b.calls.length, .ok r)] }
  | wait (c : Call) (empty : b.shared.cell.value = none) :
    Transition b { b with
      calls := b.calls ++ [c], waiting := b.waiting ++ [(b.calls.length, c)] }
  /-- A call has waited for the runtime that another one has made. -/
  | receive (i number : Nat) (c : Call) (r : Runtime) (free : b.turn = none)
      (waited : b.waiting[i]? = some (number, c)) (made : b.shared.cell.value = some r) :
    Transition b { b with
      waiting := b.waiting.eraseIdx i, results := b.results ++ [(number, .ok r)] }
  | begin (i number : Nat) (c : Call) (free : b.turn = none)
      (waited : b.waiting[i]? = some (number, c)) (empty : b.shared.cell.value = none) :
    Transition b { b with
      shared := { b.shared with ran := number :: b.shared.ran }
      waiting := b.waiting.eraseIdx i, turn := some (number, c) }
  | succeed (number : Nat) (c : Call) (r : Runtime) (running : b.turn = some (number, c))
      (succeeds : c.outcome = .ok r) :
    Transition b { b with
      shared := { b.shared with cell := ⟨some r⟩ }, turn := none
      results := b.results ++ [(number, .ok r)] }
  | fail (number : Nat) (c : Call) (e : EngineError) (running : b.turn = some (number, c))
      (fails : c.outcome = .error e) :
    Transition b { b with turn := none, results := b.results ++ [(number, .error e)] }
  | drop (i : Nat) : Transition b { b with waiting := b.waiting.eraseIdx i }

theorem step_cases {b : Bootstrap} (exclusive : b.turn.isSome → b.shared.cell.value = none)
    (a : Act) : b.step a = b ∨ Transition b (b.step a) := by
  obtain ⟨⟨⟨value⟩, ran⟩, calls, waiting, turn, results⟩ := b
  cases a with
  | call c =>
    cases value with
    | some r => exact .inr (.find c r rfl)
    | none => exact .inr (.wait c rfl)
  | enter i =>
    cases turn with
    | some running => exact .inl rfl
    | none =>
      cases waited : waiting[i]? with
      | none =>
        left
        simp only [step, waited]
      | some call =>
        obtain ⟨number, c⟩ := call
        right
        simp only [step, waited]
        cases value with
        | some r => exact .receive i number c r rfl waited rfl
        | none => exact .begin i number c rfl waited rfl
  | finish =>
    cases turn with
    | none => exact .inl rfl
    | some running =>
      obtain ⟨number, c⟩ := running
      -- A resolution runs only while the cell is empty, so that it is not looked at again.
      cases exclusive rfl
      right
      cases outcome : c.outcome with
      | ok r =>
        simp only [step, Once.discipline, Once.getOrInit, Call.attempt, outcome]
        exact .succeed number c r rfl outcome
      | error e =>
        simp only [step, Once.discipline, Once.getOrInit, Call.attempt, outcome]
        exact .fail number c e rfl outcome
  | drop i => exact .inr (.drop i)

/-! ## The stages -/

/-- A call whose own resolution has failed and that was told so. -/
def Failed (b : Bootstrap) (number : Nat) : Prop :=
  ∃ c e, b.calls[number]? = some c ∧ c.outcome = .error e ∧ (number, .error e) ∈ b.results

/-- How far the bootstrap has come. -/
inductive Stage (b : Bootstrap) : Prop where
  | idle (free : b.turn = none) (empty : b.shared.cell.value = none)
      (failed : ∀ m ∈ b.shared.ran, b.Failed m)
  | running (number : Nat) (c : Call) (earlier : List Nat) (running : b.turn = some (number, c))
      (called : b.calls[number]? = some c) (empty : b.shared.cell.value = none)
      (ran : b.shared.ran = number :: earlier) (failed : ∀ m ∈ earlier, b.Failed m)
  | made (number : Nat) (c : Call) (r : Runtime) (earlier : List Nat) (free : b.turn = none)
      (called : b.calls[number]? = some c) (value : b.shared.cell.value = some r)
      (ran : b.shared.ran = number :: earlier) (succeeds : c.outcome = .ok r)
      (told : (number, .ok r) ∈ b.results) (failed : ∀ m ∈ earlier, b.Failed m)

/-- What a call is told: the runtime that is there, or how its own resolution has failed. -/
def Honest (b : Bootstrap) (number : Nat) : Except EngineError Runtime → Prop
  | .ok r => b.shared.cell.value = some r ∧ ∃ c, b.calls[number]? = some c
  | .error e => ∃ c, b.calls[number]? = some c ∧ c.outcome = .error e

structure Sound (b : Bootstrap) : Prop where
  stage : b.Stage
  waits : ∀ number c, (number, c) ∈ b.waiting → b.calls[number]? = some c
  told : ∀ number result, (number, result) ∈ b.results → b.Honest number result

theorem Stage.exclusive {b : Bootstrap} (stage : b.Stage) (taken : b.turn.isSome) :
    b.shared.cell.value = none := by
  cases stage with
  | idle free =>
    simp only [free, Option.isSome_none, Bool.false_eq_true] at taken
  | running number c earlier running called empty => exact empty
  | made number c r earlier free =>
    simp only [free, Option.isSome_none, Bool.false_eq_true] at taken

theorem sound_new : new.Sound where
  stage := .idle rfl rfl (fun _ ran => nomatch ran)
  waits _ _ waits := nomatch waits
  told _ _ told := nomatch told

/-! ### Nothing that was called or told is lost -/

theorem called_of_prefix {calls calls' : List Call} (grown : calls <+: calls') {number : Nat}
    {c : Call} (called : calls[number]? = some c) : calls'[number]? = some c := by
  obtain ⟨later, rfl⟩ := grown
  rw [List.getElem?_append_left (List.getElem?_eq_some_iff.mp called).1, called]

theorem Transition.calls_grow {b b' : Bootstrap} (t : Transition b b') : b.calls <+: b'.calls := by
  cases t
  case find c r made => exact List.prefix_append _ _
  case wait c empty => exact List.prefix_append _ _
  all_goals exact List.prefix_rfl

theorem Transition.results_grow {b b' : Bootstrap} (t : Transition b b') :
    b.results <+: b'.results := by
  cases t
  case wait | begin | drop => exact List.prefix_rfl
  all_goals exact List.prefix_append _ _

theorem Failed.after {b b' : Bootstrap} {number : Nat} (failed : b.Failed number)
    (t : Transition b b') : b'.Failed number := by
  obtain ⟨c, e, called, fails, told⟩ := failed
  exact ⟨c, e, called_of_prefix t.calls_grow called, fails, t.results_grow.subset told⟩

/-! ### What a step preserves -/

theorem Sound.stage_after {b b' : Bootstrap} (sound : b.Sound) (t : Transition b b') :
    b'.Stage := by
  have failed_after : ∀ {ms : List Nat}, (∀ m ∈ ms, b.Failed m) → ∀ m ∈ ms, b'.Failed m :=
    fun failed m ran => (failed m ran).after t
  have called_after : ∀ {number c}, b.calls[number]? = some c → b'.calls[number]? = some c :=
    called_of_prefix t.calls_grow
  have told_after : ∀ {told}, told ∈ b.results → told ∈ b'.results :=
    fun told => t.results_grow.subset told
  obtain ⟨free, empty, failed⟩ | ⟨number, c, earlier, running, called, empty, ran, failed⟩ |
    ⟨number, c, r, earlier, free, called, value, ran, succeeds, told, failed⟩ := sound.stage
  · -- nobody has its turn, so that nothing comes to an end
    cases t with
    | find d r made => cases empty.symm.trans made
    | wait d _ => exact .idle free empty (failed_after failed)
    | receive i n d r _ waited made => cases empty.symm.trans made
    | begin i n d _ waited _ =>
      exact .running n d b.shared.ran rfl (sound.waits n d (List.mem_of_getElem? waited)) empty rfl
        (failed_after failed)
    | succeed n d r running _ => cases free.symm.trans running
    | fail n d e running _ => cases free.symm.trans running
    | drop i => exact .idle free empty (failed_after failed)
  · cases t with
    | find d r made => cases empty.symm.trans made
    | wait d _ =>
      exact .running number c earlier running (called_after called) empty ran (failed_after failed)
    | receive i n d r free => cases running.symm.trans free
    | begin i n d free => cases running.symm.trans free
    | succeed n d r turn succeeds =>
      cases running.symm.trans turn
      exact .made number c r earlier rfl called rfl ran succeeds
        (List.mem_append_right _ (List.mem_singleton_self _)) (failed_after failed)
    | fail n d e turn fails =>
      cases running.symm.trans turn
      -- The attempt that has just failed joins those before it.
      refine .idle rfl empty fun m tried => ?_
      rcases List.mem_cons.mp (ran ▸ tried) with rfl | before
      · exact ⟨c, e, called, fails, List.mem_append_right _ (List.mem_singleton_self _)⟩
      · exact failed_after failed m before
    | drop i => exact .running number c earlier running called empty ran (failed_after failed)
  · cases t with
    | wait d empty => cases empty.symm.trans value
    | begin i n d _ _ empty => cases empty.symm.trans value
    | succeed n d r running _ => cases free.symm.trans running
    | fail n d e running _ => cases free.symm.trans running
    | _ =>
      exact .made number c r earlier free (called_after called) value ran succeeds (told_after told)
        (failed_after failed)

theorem Sound.value_after {b b' : Bootstrap} (sound : b.Sound) (t : Transition b b')
    {r : Runtime} (value : b.shared.cell.value = some r) : b'.shared.cell.value = some r := by
  cases t with
  | succeed number c made running _ =>
    cases (sound.stage.exclusive (running ▸ rfl)).symm.trans value
  | _ => exact value

theorem Sound.honest_after {b b' : Bootstrap} (sound : b.Sound) (t : Transition b b')
    {number : Nat} {result : Except EngineError Runtime} (honest : b.Honest number result) :
    b'.Honest number result := by
  cases result with
  | ok r =>
    obtain ⟨value, c, called⟩ := honest
    exact ⟨sound.value_after t value, c, called_of_prefix t.calls_grow called⟩
  | error e =>
    obtain ⟨c, called, fails⟩ := honest
    exact ⟨c, called_of_prefix t.calls_grow called, fails⟩

/-- A step tells one call at most. -/
theorem Sound.results_after {b b' : Bootstrap} (sound : b.Sound) (t : Transition b b') :
    b'.results = b.results ∨
      ∃ number result, b'.results = b.results ++ [(number, result)] ∧ b'.Honest number result := by
  -- Whoever is told something has called.
  have called_of_waiting : ∀ {i number c}, b.waiting[i]? = some (number, c) →
      b.calls[number]? = some c :=
    fun waited => sound.waits _ _ (List.mem_of_getElem? waited)
  have called_of_running : ∀ {number c}, b.turn = some (number, c) → b.calls[number]? = some c := by
    intro number c running
    cases sound.stage with
    | running n d earlier turn called => cases turn.symm.trans running; exact called
    | idle free => cases free.symm.trans running
    | made n d r earlier free => cases free.symm.trans running
  cases t with
  | wait | begin | drop => exact .inl rfl
  | find c r made =>
    exact .inr ⟨_, _, rfl, made, c, List.getElem?_concat_length⟩
  | receive i number c r _ waited made =>
    exact .inr ⟨_, _, rfl, made, c, called_of_waiting waited⟩
  | succeed number c r running _ => exact .inr ⟨_, _, rfl, rfl, c, called_of_running running⟩
  | fail number c e running fails => exact .inr ⟨_, _, rfl, c, called_of_running running, fails⟩

theorem Sound.waits_after {b b' : Bootstrap} (sound : b.Sound) (t : Transition b b')
    {number : Nat} {c : Call} (waits : (number, c) ∈ b'.waiting) : b'.calls[number]? = some c := by
  have earlier : (number, c) ∈ b.waiting → b'.calls[number]? = some c :=
    fun waited => called_of_prefix t.calls_grow (sound.waits number c waited)
  cases t with
  | wait d _ =>
    rcases List.mem_append.mp waits with before | new
    · exact earlier before
    · cases List.mem_singleton.mp new
      exact List.getElem?_concat_length
  | receive i n d r _ _ _ => exact earlier (List.mem_of_mem_eraseIdx waits)
  | begin i n d _ _ _ => exact earlier (List.mem_of_mem_eraseIdx waits)
  | drop i => exact earlier (List.mem_of_mem_eraseIdx waits)
  | _ => exact earlier waits

theorem Sound.after {b b' : Bootstrap} (sound : b.Sound) (t : Transition b b') : b'.Sound where
  stage := sound.stage_after t
  waits _ _ := sound.waits_after t
  told number result told := by
    rcases sound.results_after t with same | ⟨number', result', grown, honest⟩
    · exact sound.honest_after t (sound.told _ _ (same ▸ told))
    · rcases List.mem_append.mp (grown ▸ told) with before | new
      · exact sound.honest_after t (sound.told _ _ before)
      · cases List.mem_singleton.mp new
        exact honest

theorem Sound.step {b : Bootstrap} (sound : b.Sound) (a : Act) : (b.step a).Sound := by
  rcases step_cases sound.stage.exclusive a with same | changed
  · rwa [same]
  · exact sound.after changed

theorem Sound.play {b : Bootstrap} (sound : b.Sound) (acts : List Act) : (b.play acts).Sound := by
  induction acts generalizing b with
  | nil => exact sound
  | cons a acts ih => exact ih (sound.step a)

/-! ## The first success -/

theorem settled_step {b : Bootstrap} (sound : b.Sound) {r : Runtime}
    (value : b.shared.cell.value = some r) (a : Act) :
    (b.step a).shared = b.shared ∧
      ∃ told, (b.step a).results = b.results ++ told ∧ ∀ p ∈ told, p.2 = .ok r := by
  have nobody : ∀ {p}, b.turn ≠ some p := fun taken =>
    nomatch (sound.stage.exclusive (taken ▸ rfl)).symm.trans value
  have only : ∀ {number made}, b.shared.cell.value = some made →
      ∀ p ∈ [((number : Nat), (Except.ok made : Except EngineError Runtime))], p.2 = .ok r := by
    intro number made there p told
    cases there.symm.trans value
    cases List.mem_singleton.mp told
    rfl
  have silent : b.results = b.results ++ [] := (List.append_nil _).symm
  rcases step_cases sound.stage.exclusive a with same | changed
  · rw [same]
    exact ⟨rfl, [], silent, fun _ told => nomatch told⟩
  · generalize b.step a = b' at changed
    cases changed with
    | find c made there => exact ⟨rfl, _, rfl, only there⟩
    | receive i number c made _ _ there => exact ⟨rfl, _, rfl, only there⟩
    | wait c empty => cases empty.symm.trans value
    | begin i number c _ _ empty => cases empty.symm.trans value
    | succeed number c made running _ => exact absurd running nobody
    | fail number c e running _ => exact absurd running nobody
    | drop i => exact ⟨rfl, [], silent, fun _ told => nomatch told⟩

theorem settled_play {b : Bootstrap} (sound : b.Sound) {r : Runtime}
    (value : b.shared.cell.value = some r) (acts : List Act) :
    (b.play acts).shared = b.shared ∧
      ∃ told, (b.play acts).results = b.results ++ told ∧ ∀ p ∈ told, p.2 = .ok r := by
  induction acts generalizing b with
  | nil => exact ⟨rfl, [], (List.append_nil _).symm, fun _ told => nomatch told⟩
  | cons a acts ih =>
    obtain ⟨kept, first, results, firstOk⟩ := settled_step sound value a
    obtain ⟨kept', rest, results', restOk⟩ := ih (sound.step a) (kept ▸ value)
    refine ⟨kept'.trans kept, first ++ rest, ?_, ?_⟩
    · rw [← List.append_assoc, ← results]
      exact results'
    · intro p told
      rcases List.mem_append.mp told with early | late
      · exact firstOk p early
      · exact restOk p late

/-- A runtime is that of the last attempt, the only one that has not failed. -/
theorem Sound.maker {b : Bootstrap} (sound : b.Sound) {r : Runtime}
    (value : b.shared.cell.value = some r) :
    ∃ number c earlier, b.shared.ran = number :: earlier ∧ b.calls[number]? = some c ∧
      resolve c.files c.launch = .ok r ∧ (number, .ok r) ∈ b.results ∧
      ∀ m ∈ earlier, b.Failed m := by
  cases sound.stage with
  | idle _ empty => cases empty.symm.trans value
  | running _ _ _ _ _ empty => cases empty.symm.trans value
  | made number c made earlier _ called there ran succeeds told failed =>
    cases there.symm.trans value
    exact ⟨number, c, earlier, ran, called, succeeds, told, failed⟩

theorem step_finish_of_error {b : Bootstrap} {number : Nat} {c : Call} {e : EngineError}
    (running : b.turn = some (number, c)) (empty : b.shared.cell.value = none)
    (fails : c.outcome = .error e) :
    b.step .finish = { b with turn := none, results := b.results ++ [(number, .error e)] } := by
  obtain ⟨⟨⟨value⟩, ran⟩, calls, waiting, turn, results⟩ := b
  cases running
  cases empty
  simp only [step, answer, Once.discipline, Once.getOrInit, Call.attempt, fails]

/-- A call that nobody disturbs comes to what the program makes of it. -/
theorem play_alone (b : Bootstrap) (c : Call) (free : b.turn = none) :
    (b.play [.call c, .enter b.waiting.length, .finish]).shared.cell =
        (Runtime.shared b.shared.cell c.files c.launch).2 ∧
      (b.play [.call c, .enter b.waiting.length, .finish]).results =
        b.results ++ [(b.calls.length, (Runtime.shared b.shared.cell c.files c.launch).1)] := by
  obtain ⟨⟨⟨value⟩, ran⟩, calls, waiting, turn, results⟩ := b
  cases free
  cases value with
  | some r => simp [play, step, answer, Once.discipline, Runtime.shared, Once.getOrInit]
  | none =>
    cases outcome : resolve c.files c.launch <;>
      simp [play, step, answer, Once.discipline, Runtime.shared, Once.getOrInit, Call.attempt,
        Call.outcome, outcome]

/-- The runtime of the first resolution that succeeds serves all calls from then on, each with its
own header, and no resolution comes after it; an attempt that fails is told why and leaves nothing
behind. -/
theorem first_success_wins (acts : List Act) :
    let b := new.play acts
    (∀ r, b.shared.cell.value = some r →
      (∃ number c earlier, b.shared.ran = number :: earlier ∧ b.calls[number]? = some c ∧
        resolve c.files c.launch = .ok r ∧ (number, .ok r) ∈ b.results ∧
        ∀ m ∈ earlier, b.Failed m) ∧
      ∀ more, (b.play more).shared = b.shared ∧
        ∃ told, (b.play more).results = b.results ++ told ∧ ∀ p ∈ told, p.2 = .ok r) ∧
    (∀ number r, (number, .ok r) ∈ b.results → b.shared.cell.value = some r ∧
      ∃ caller maker place, b.calls[number]? = some caller ∧
        b.shared.ran.head?.bind (b.calls[·]?) = some maker ∧
        maker.files.locate maker.launch.directory = .ok place ∧
        r.launch caller.launch =
          { program := maker.launch.program, directory := place.path
            header := caller.launch.header, headerSeconds := caller.launch.headerSeconds }) ∧
    (∀ number e, (number, .error e) ∈ b.results → ∃ c reason, b.calls[number]? = some c ∧
      resolve c.files c.launch = .error e ∧ e = .bootstrap reason) ∧
    (∀ number c e, b.turn = some (number, c) → resolve c.files c.launch = .error e →
      b.shared.cell = .empty ∧
        b.step .finish = { b with turn := none, results := b.results ++ [(number, .error e)] }) ∧
    ∀ c, b.turn = none →
      (b.play [.call c, .enter b.waiting.length, .finish]).shared.cell =
          (Runtime.shared b.shared.cell c.files c.launch).2 ∧
        (b.play [.call c, .enter b.waiting.length, .finish]).results =
          b.results ++ [(b.calls.length, (Runtime.shared b.shared.cell c.files c.launch).1)] := by
  intro b
  have sound : b.Sound := sound_new.play acts
  refine ⟨fun r value => ⟨sound.maker value, settled_play sound value⟩, ?_, ?_, ?_, ?_⟩
  · intro number r told
    obtain ⟨value, caller, called⟩ := sound.told number _ told
    obtain ⟨first, maker, earlier, ran, made, succeeds, -, -⟩ := sound.maker value
    obtain ⟨place, located, -, rfl⟩ := resolve_eq_ok succeeds
    refine ⟨value, caller, maker, place, called, ?_, located, rfl⟩
    rw [ran]
    exact made
  · intro number e told
    obtain ⟨c, called, fails⟩ := sound.told number _ told
    obtain ⟨reason, why⟩ := resolve_eq_error fails
    exact ⟨c, reason, called, fails, why⟩
  · intro number c e running fails
    have empty : b.shared.cell.value = none := sound.stage.exclusive (running ▸ rfl)
    exact ⟨congrArg Once.mk empty, step_finish_of_error running empty fails⟩
  · exact play_alone b

end Bootstrap

end NotebookKernel.Runtime
