import NotebookKernel.Proofs.Kernel.Calls
import NotebookKernel.Proofs.Mailbox.Stopping
import NotebookKernel.Proofs.Service.Sequential
import NotebookKernel.Proofs.Session.Release

/-! # The release of a served engine

The engine of a service can be released in two ways: the worker handles a request to shut down,
or somebody stops the service and releases the session once the worker has come to rest.  Both
may happen, in any order and any number of times, with the mailbox closed at any point of the
worker's round.  `released_exactly_once` says that it comes to one release, behind every exchange
with the engine.

The kernel is at any time the one that has handled the requests in the ledger, one after the
other (`Ledger.kernel_live`), so that the tape of its engine is known from them.
-/

namespace NotebookKernel

variable {ε δ : Type}

namespace Kernel

variable {E : Engine ε} {k : Kernel (Taped ε)} {r : Request}

/-! ## Requests and the tape -/

/-- What has passed between a kernel and its engine. -/
def tape (k : Kernel (Taped ε)) : List Traffic :=
  k.session.tape

theorem session_handle_shutdown (stops : r.isShutdown = true) :
    (k.handle E.taped r).2.session = (k.session.shutdown E.taped).2 := by
  rw [session_handle, Request.call?_eq_shutdown.mpr stops]
  rfl

theorem engaged_handle (h : k.session.Engaged) (goes : r.isShutdown = false) :
    (k.handle E.taped r).2.session.Engaged ∧
      ∃ exchanges, (k.handle E.taped r).2.tape = k.tape ++ exchanges ∧
        ∀ t ∈ exchanges, t.document?.isSome := by
  unfold tape
  rw [session_handle]
  cases called : r.call? with
  | none => exact ⟨h, [], (List.append_nil _).symm, by simp⟩
  | some c =>
    apply h.call
    intro stops
    rw [stops, Request.call?_eq_shutdown, goes] at called
    cases called

theorem released_handle (h : k.session.Released) :
    (k.handle E.taped r).2.session = k.session := by
  rw [session_handle]
  cases r.call? with
  | none => rfl
  | some c => exact h.call c

/-- The engine is with the kernel until the first request to shut down. -/
theorem engaged_or_released (h : k.session.Engaged) (rs : List Request) :
    ((∀ r ∈ rs, r.isShutdown = false) ∧ (k.after E.taped rs).session.Engaged) ∨
    ((∃ r ∈ rs, r.isShutdown = true) ∧ (k.after E.taped rs).session.Released) := by
  induction rs using List.reverseRecOn with
  | nil => exact .inl ⟨by simp, h⟩
  | append_singleton rs r ih =>
    rw [after_concat]
    obtain ⟨none_, engaged⟩ | ⟨⟨r', member, stops⟩, released⟩ := ih
    · cases stops : r.isShutdown with
      | false =>
        refine .inl ⟨fun r' member => ?_, (engaged_handle engaged stops).1⟩
        obtain old | last := List.mem_append.mp member
        · exact none_ r' old
        · rw [List.mem_singleton.mp last, stops]
      | true =>
        refine .inr ⟨⟨r, by simp, stops⟩, ?_⟩
        rw [session_handle_shutdown stops]
        exact engaged.shutdown.2.1
    · refine .inr ⟨⟨r', List.mem_append_left _ member, stops⟩, ?_⟩
      rw [released_handle released]
      exact released

/-- What passes while a request is handled; a release passes alone. -/
theorem tape_handle (h : k.session.Engaged ∨ k.session.Released) :
    ∃ traffic, (k.handle E.taped r).2.tape = k.tape ++ traffic ∧
      (.released ∈ traffic → traffic = [.released] ∧ r.isShutdown = true) := by
  obtain engaged | released := h
  · cases stops : r.isShutdown with
    | false =>
      obtain ⟨_, exchanges, passed, only⟩ := engaged_handle (E := E) engaged stops
      refine ⟨exchanges, passed, fun member => ?_⟩
      have := only _ member
      cases this
    | true =>
      refine ⟨[.released], ?_, fun _ => ⟨rfl, rfl⟩⟩
      rw [tape, session_handle_shutdown stops]
      exact engaged.shutdown.2.2
  · refine ⟨[], ?_, by simp⟩
    rw [tape, released_handle released, List.append_nil]
    rfl

end Kernel

namespace Service

/-! ## A closed service -/

section Closed

variable {E : Engine ε} {s : Service ε}

theorem mailbox_step (closed : s.mailbox.Stopped) : (s.step E).mailbox = s.mailbox := by
  cases working : s.work with
  | idle => simp [step, working, closed.tryPoll_eq]
  | taken r => simp [step, working]
  | handled b => simp [step, working, closed.reply_eq]

theorem work_step_idle (closed : s.mailbox.Stopped) (idle : s.work = .idle) :
    (s.step E).work = .idle := by
  simp [step, idle, closed.tryPoll_eq]

theorem work_step_handled {b : Reply} (handled : s.work = .handled b) : (s.step E).work = .idle := by
  simp [step, handled]

theorem work_step_taken {r : Request} (taken : s.work = .taken r) :
    (s.step E).work = .handled (s.kernel.handle E r).1 := by
  simp [step, taken]

theorem stop_eq (E : Engine ε) (s : Service ε) :
    s.stop E = (((s.close.drain E).kernel.shutdown E).1,
      { s.close.drain E with kernel := ((s.close.drain E).kernel.shutdown E).2 }) := rfl

/-- The worker of a closed service finishes the request that it has and takes no other. -/
theorem work_drain (closed : s.mailbox.Stopped) : (s.drain E).work = .idle := by
  have first : (s.step E).mailbox.Stopped := by rw [mailbox_step closed]; exact closed
  have second : ((s.step E).step E).mailbox.Stopped := by rw [mailbox_step first]; exact first
  rw [drain, closed.queue]
  change (((s.step E).step E).step E).work = .idle
  cases working : s.work with
  | idle => exact work_step_idle second (work_step_idle first (work_step_idle closed working))
  | taken r => exact work_step_idle second (work_step_handled (work_step_taken working))
  | handled b => exact work_step_idle second (work_step_idle first (work_step_handled working))

end Closed

/-! ## Runs in which the mailbox may be closed -/

/-- What can happen to a service: a move of a client or of the worker, or somebody closes the
    mailbox. -/
inductive Incident where
  | move (m : Move)
  | close

namespace Ledger

def close (l : Ledger ε) : Ledger ε :=
  { l with service := l.service.close }

def undergo (E : Engine ε) (l : Ledger ε) : Incident → Ledger ε
  | .move m => l.move E m
  | .close => l.close

def live (E : Engine ε) (l : Ledger ε) (run : List Incident) : Ledger ε :=
  run.foldl (undergo E) l

theorem live_append (E : Engine ε) (l : Ledger ε) (run more : List Incident) :
    l.live E (run ++ more) = (l.live E run).live E more := by
  simp only [live, List.foldl_append]

theorem live_works (E : Engine ε) (l : Ledger ε) (n : Nat) :
    l.live E (List.replicate n (.move .work)) = l.play E (List.replicate n .work) := by
  induction n generalizing l with
  | zero => rfl
  | succ n ih => exact ih (l.move E .work)

theorem drain_eq_live (E : Engine ε) (l : Ledger ε) :
    ∃ n, l.drain E = l.live E (List.replicate n (.move .work)) :=
  ⟨_, (live_works E l _).symm⟩

/-- Nothing that happens touches the kernel, but for the worker that handles its request. -/
theorem undergo_cases (E : Engine ε) (l : Ledger ε) (i : Incident) :
    ((l.undergo E i).service.kernel = l.service.kernel ∧ (l.undergo E i).handled = l.handled) ∨
    ∃ r, i = .move .work ∧ l.service.work = .taken r ∧
      (l.undergo E i).service.kernel = (l.service.kernel.handle E r).2 ∧
      (l.undergo E i).handled = l.handled ++ [(r, (l.service.kernel.handle E r).1)] := by
  cases i with
  | close => exact .inl ⟨rfl, rfl⟩
  | move m =>
    cases m with
    | send r => exact .inl ⟨rfl, by simp [undergo, move, Service.move, Service.send]⟩
    | fetch t => exact .inl (by simp [undergo, move, Service.move])
    | drop t => exact .inl (by simp [undergo, move, Service.move])
    | work =>
      cases working : l.service.work with
      | idle =>
        left
        rcases polled : l.service.mailbox.tryPoll with ⟨_ | r, mailbox⟩ <;>
          simp [undergo, move, Service.move, Service.step, working, polled, Work.handling]
      | taken r =>
        right
        refine ⟨r, rfl, rfl, ?_, ?_⟩ <;>
          simp [undergo, move, Service.move, Service.step, working, Work.handling]
      | handled b =>
        left
        simp [undergo, move, Service.move, Service.step, working, Work.handling]

theorem kernel_live (E : Engine ε) (k : Kernel ε) (run : List Incident) :
    let l := (new k).live E run
    l.service.kernel = k.after E (l.handled.map Prod.fst) := by
  induction run using List.reverseRecOn with
  | nil => rfl
  | append_singleton run i ih =>
    simp only [live_append] at ih ⊢
    change (undergo E _ i).service.kernel = k.after E ((undergo E _ i).handled.map Prod.fst)
    obtain ⟨kernel, handled⟩ | ⟨r, _, _, kernel, handled⟩ := undergo_cases E ((new k).live E run) i
    · rw [kernel, handled, ih]
    · rw [kernel, handled, List.map_append, List.map_singleton, Kernel.after_concat, ← ih]

end Ledger

/-! ## Without the tape -/

section Simulation

variable {E : Engine ε} {D : Engine δ} {f : ε → δ}

/-- A service with its engine seen through `f`. -/
def map (f : ε → δ) (s : Service ε) : Service δ :=
  { kernel := s.kernel.map f, mailbox := s.mailbox, work := s.work }

theorem map_step (sim : E.Simulates D f) (s : Service ε) :
    (s.map f).step D = (s.step E).map f := by
  cases working : s.work with
  | idle =>
    rcases polled : s.mailbox.tryPoll with ⟨_ | r, mailbox⟩ <;>
      simp [step, map, working, polled]
  | taken r => simp [step, map, working, Kernel.map_handle sim]
  | handled b => simp [step, map, working]

theorem map_steps (sim : E.Simulates D f) (n : Nat) (s : Service ε) :
    (s.map f).steps D n = (s.steps E n).map f := by
  induction n generalizing s with
  | zero => rfl
  | succ n ih => rw [steps, steps, map_step sim, ih]

theorem map_move (sim : E.Simulates D f) (s : Service ε) (m : Move) :
    (s.map f).move D m = (s.move E m).map f := by
  cases m with
  | send r | drop t => rfl
  | work => exact map_step sim s
  | fetch t =>
    simp only [move, Ledger.fetch_snd]
    rfl

theorem map_stop (sim : E.Simulates D f) (s : Service ε) :
    (s.map f).stop D = ((s.stop E).1, (s.stop E).2.map f) := by
  have drained : (s.map f).close.drain D = (s.close.drain E).map f := map_steps sim _ s.close
  have released := Kernel.map_shutdown sim (s.close.drain E).kernel
  rw [stop_eq, stop_eq, drained]
  change (((s.close.drain E).kernel.map f).shutdown D |>.1,
    { (s.close.drain E).map f with kernel := ((s.close.drain E).kernel.map f).shutdown D |>.2 }) = _
  rw [released]
  rfl

namespace Ledger

def map (f : ε → δ) (l : Ledger ε) : Ledger δ :=
  { service := l.service.map f, handled := l.handled }

theorem map_live (sim : E.Simulates D f) (l : Ledger ε) (run : List Incident) :
    (l.map f).live D run = (l.live E run).map f := by
  induction run generalizing l with
  | nil => rfl
  | cons i run ih =>
    have step : (l.map f).undergo D i = (l.undergo E i).map f := by
      cases i with
      | close => rfl
      | move m =>
        simp only [undergo, move, map, map_move sim]
        rfl
    change ((l.map f).undergo D i).live D run = ((l.undergo E i).live E run).map f
    rw [step, ih]

end Ledger

end Simulation

/-! ## Exactly one release -/

/-- A service for any kernel with a running engine, stopped after anything that can happen to it.
    The engine may answer as it likes, and the tape makes no difference.  Before the stop only the
    worker releases the engine, and that is then all that it does for its request, so that no
    exchange is going on.  The stop itself waits until the worker is at rest.  In the end there is
    one release, behind all exchanges; it comes from the stop exactly when the worker has handled no
    request to shut down. -/
theorem released_exactly_once (E : Engine ε) (e : ε) (env : Option Nat)
    (vocabulary : Cell.Vocabulary) (executions : UInt32) (run : List Incident) :
    let kernel : Kernel ε := ⟨⟨.ready e, env, vocabulary⟩, executions⟩
    let taped : Kernel (Taped ε) := ⟨⟨.ready ⟨e, []⟩, env, vocabulary⟩, executions⟩
    let l := (Ledger.new taped).live E.taped run
    let stopped := l.service.stop E.taped
    let rest := l.close.drain E.taped
    (l.map Taped.engine = (Ledger.new kernel).live E run ∧
      ((Ledger.new kernel).live E run).service.stop E =
        (stopped.1, stopped.2.map Taped.engine)) ∧
    (∀ i, ∃ traffic, (l.undergo E.taped i).service.kernel.tape = l.service.kernel.tape ++ traffic ∧
      (.released ∈ traffic → traffic = [.released] ∧
        i = .move .work ∧ ∃ restart, l.service.work = .taken (.shutdown restart))) ∧
    rest.service.work = .idle ∧
    stopped = ((rest.service.kernel.shutdown E.taped).1,
      { rest.service with kernel := (rest.service.kernel.shutdown E.taped).2 }) ∧
    (∃ exchanges, stopped.2.kernel.tape = exchanges ++ [.released] ∧
      ∀ t ∈ exchanges, t.document?.isSome) ∧
    (stopped.1 = true ↔ ∀ p ∈ rest.handled, p.1.isShutdown = false) := by
  intro kernel taped l stopped rest
  have engaged : taped.session.Engaged := ⟨⟨e, []⟩, rfl, by simp⟩
  have plain : l.map Taped.engine = (Ledger.new kernel).live E run :=
    (Ledger.map_live E.taped_simulates (Ledger.new taped) run).symm
  have waited : rest.service = l.service.close.drain E.taped := Ledger.service_drain E.taped l.close
  have ends : stopped = ((rest.service.kernel.shutdown E.taped).1,
      { rest.service with kernel := (rest.service.kernel.shutdown E.taped).2 }) := by
    rw [waited]
    exact stop_eq E.taped l.service
  -- The stop is a run like others, so that the kernel has handled what is in the ledger.
  have handled : rest.service.kernel = taped.after E.taped (rest.handled.map Prod.fst) := by
    obtain ⟨n, works⟩ := Ledger.drain_eq_live E.taped l.close
    have whole : rest = (Ledger.new taped).live E.taped (run ++ .close :: List.replicate n (.move .work)) := by
      rw [Ledger.live_append]
      exact works
    rw [whole]
    exact Ledger.kernel_live E.taped taped _
  refine ⟨⟨plain, ?_⟩, ?_, ?_, ends, ?_⟩
  · rw [← plain]
    exact map_stop E.taped_simulates l.service
  · intro i
    have state : l.service.kernel.session.Engaged ∨ l.service.kernel.session.Released := by
      rw [show l.service.kernel = _ from Ledger.kernel_live E.taped taped run]
      exact (Kernel.engaged_or_released engaged _).imp And.right And.right
    obtain ⟨same, _⟩ | ⟨r, works, taken, kernel, _⟩ := Ledger.undergo_cases E.taped l i
    · exact ⟨[], by rw [same, List.append_nil], by simp⟩
    · obtain ⟨traffic, passed, alone⟩ := Kernel.tape_handle (E := E) (r := r) state
      refine ⟨traffic, by rw [kernel, passed], fun member => ?_⟩
      obtain ⟨only, stops⟩ := alone member
      cases r with
      | shutdown restart => exact ⟨only, works, restart, taken⟩
      | execute | complete | inspect | isComplete | kernelInfo => cases stops
  · rw [waited]
    exact work_drain (Mailbox.stopped_shutdown l.service.mailbox)
  · rw [ends]
    have worked := Kernel.engaged_or_released (E := E) engaged (rest.handled.map Prod.fst)
    rw [← handled] at worked
    obtain ⟨never, open_⟩ | ⟨⟨r, member, stops⟩, released⟩ := worked
    · obtain ⟨here, released, _⟩ := open_.shutdown (E := E)
      refine ⟨released.tape, iff_of_true here fun p member => ?_⟩
      exact never _ (List.mem_map_of_mem member)
    · have done := released.shutdown (E := E)
      refine ⟨?_, iff_of_false ?_ ?_⟩
      · change ∃ exchanges, (rest.service.kernel.session.shutdown E.taped).2.tape = _ ∧ _
        rw [done]
        exact released.tape
      · change (rest.service.kernel.session.shutdown E.taped).1 ≠ true
        rw [done]
        simp
      · obtain ⟨p, inside, rfl⟩ := List.mem_map.mp member
        intro never
        rw [never p inside] at stops
        cases stops

end Service

end NotebookKernel
