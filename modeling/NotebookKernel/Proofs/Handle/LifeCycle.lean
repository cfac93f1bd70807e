import NotebookKernel.Proofs.Handle.Timeline

/-! # The life cycle of a handle

The phase and the slot of a handle change at different moments, but never out of step for
anybody who has the lock.  `Fits` says what they are for each holder of the lock, `Tallied`
counts what begins against what has ended, and `Owned` keeps every shutdown with the close
that it belongs to.  Each is preserved by every transition.
-/

namespace NotebookKernel.Handle.Timeline

variable {ε : Type} {shutdown : ε → ε} {l l' : Timeline ε}

/-! ## Phase and slot -/

/-- The phase and the slot fit the holder of the lock. -/
def Fits (l : Timeline ε) : Prop :=
  match l.holder with
  | none => l.handle.slot.isSome ↔ l.handle.phase = .ready
  | some .creating => l.handle.phase = .initializing ∧ l.handle.slot = none
  | some .inUse => l.handle.phase = .ready ∧ l.handle.slot.isSome
  | some (.closing _) => l.handle.phase = .closed ∧ l.handle.slot = none

theorem Fits.free (h : l.Fits) (free : l.holder = none) :
    l.handle.slot.isSome ↔ l.handle.phase = .ready := by
  rw [Fits, free] at h
  exact h

theorem Fits.creating (h : l.Fits) (creating : l.holder = some .creating) :
    l.handle.phase = .initializing ∧ l.handle.slot = none := by
  rw [Fits, creating] at h
  exact h

theorem Fits.inUse (h : l.Fits) (inUse : l.holder = some .inUse) :
    l.handle.phase = .ready ∧ l.handle.slot.isSome := by
  rw [Fits, inUse] at h
  exact h

theorem Fits.closing (h : l.Fits) {b : Bool} (closing : l.holder = some (.closing b)) :
    l.handle.phase = .closed ∧ l.handle.slot = none := by
  rw [Fits, closing] at h
  exact h

theorem Fits.unready (h : l.Fits) (free : l.holder = none) (empty : l.handle.slot = none) :
    l.handle.phase ≠ .ready := by
  intro ready
  have full := (h.free free).mpr ready
  rw [empty] at full
  cases full

theorem Fits.transition (h : l.Fits) (step : Transition shutdown l l') : l'.Fits := by
  cases step with
  | superfluous free | tooLate free | refuse free => exact h.free free
  | begin free unready _ =>
    have empty : l.handle.slot = none :=
      Option.not_isSome_iff_eq_none.mp fun full => unready ((h.free free).mp full)
    exact ⟨rfl, empty⟩
  | create e creating =>
    -- The slot is filled and the phase is set before the lock is given back.
    exact ⟨fun _ => rfl, fun _ => rfl⟩
  | fail err creating =>
    have empty := (h.creating creating).2
    show l.handle.slot.isSome ↔ Phase.uninitialized = .ready
    rw [empty]
    exact ⟨nofun, nofun⟩
  | abandon creating =>
    obtain ⟨initializing, empty⟩ := h.creating creating
    show l.handle.slot.isSome ↔ l.handle.phase = .ready
    rw [initializing, empty]
    exact ⟨nofun, nofun⟩
  | acquire e free full =>
    have some_ : l.handle.slot.isSome := by rw [full]; rfl
    exact ⟨(h.free free).mp some_, some_⟩
  | use e inUse full =>
    rw [Fits, holder_stay, inUse]
    exact ⟨(h.inUse inUse).1, rfl⟩
  | release inUse =>
    obtain ⟨ready, full⟩ := h.inUse inUse
    exact ⟨fun _ => ready, fun _ => full⟩
  | closeFull e free full => exact ⟨rfl, rfl⟩
  | closeEmpty free empty => exact ⟨rfl, empty⟩
  | finish b closing =>
    obtain ⟨closed, empty⟩ := h.closing closing
    show l.handle.slot.isSome ↔ l.handle.phase = .ready
    rw [closed, empty]
    exact ⟨nofun, nofun⟩

/-! ## What begins and what ends -/

/-- The tallies of a timeline. -/
structure Tallied (l : Timeline ε) : Prop where
  /-- A factory is running exactly while a task that creates the engine has the lock. -/
  creations : l.count .factoryBegan =
    l.count .factoryEnded + l.count .factoryDropped + if l.holder = some .creating then 1 else 0
  created : l.count (.initReturned true) = 0 ∨
    l.count (.initReturned true) = 1 ∧ (l.handle.phase = .ready ∨ l.handle.phase = .closed)
  uses : l.count .acquired = l.count .released + if l.holder = some .inUse then 1 else 0
  shutdowns : l.count .shutdown = l.handle.retired.length
  retired : l.handle.retired = [] ∨ l.handle.retired.length = 1 ∧ l.handle.phase = .closed

theorem Tallied.retired_nil (h : l.Tallied) (open_ : l.handle.phase ≠ .closed) :
    l.handle.retired = [] :=
  h.retired.resolve_right fun gone => open_ gone.2

theorem Tallied.created_zero (h : l.Tallied) (unready : l.handle.phase ≠ .ready)
    (open_ : l.handle.phase ≠ .closed) : l.count (.initReturned true) = 0 :=
  h.created.resolve_right fun made => made.2.elim unready open_

theorem Tallied.transition (h : l.Tallied) (fits : l.Fits) (step : Transition shutdown l l') :
    l'.Tallied where
  creations := by
    have before := h.creations
    cases step <;> simp_all <;> omega
  created := by
    have before := h.created
    cases step with
    | begin free unready open_ =>
      have none_ := h.created_zero unready open_
      simp [none_]
    | create e creating =>
      -- Only a handle on which nothing has been created can be in creation.
      have initializing := (fits.creating creating).1
      have none_ := h.created_zero (by rw [initializing]; nofun) (by rw [initializing]; nofun)
      simp [none_]
    | fail err creating =>
      have initializing := (fits.creating creating).1
      have none_ := h.created_zero (by rw [initializing]; nofun) (by rw [initializing]; nofun)
      simp [none_]
    | closeFull e free full | closeEmpty free empty =>
      obtain none_ | ⟨once, _⟩ := before
      · simp [none_]
      · simp [once]
    | use e inUse full => exact before
    | _ => simpa using before
  uses := by
    have before := h.uses
    cases step <;> simp_all
  shutdowns := by
    have before := h.shutdowns
    cases step <;> simp_all [beginCreation, putBack]
  retired := by
    have before := h.retired
    cases step with
    | begin free unready open_ => exact .inl (h.retired_nil open_)
    | create e creating =>
      have initializing := (fits.creating creating).1
      exact .inl (h.retired_nil (by rw [initializing]; nofun))
    | fail err creating =>
      have initializing := (fits.creating creating).1
      exact .inl (h.retired_nil (by rw [initializing]; nofun))
    | closeFull e free full =>
      have ready := (fits.free free).mp (by rw [full]; rfl)
      have none_ := h.retired_nil (by rw [ready]; nofun)
      exact .inr (by simp [none_])
    | closeEmpty free empty => exact before.imp_right fun gone => ⟨gone.1, rfl⟩
    | _ => exact before

/-! ## Whose shutdown it is -/

/-- Every shutdown belongs to the turn of one close. -/
structure Owned (l : Timeline ε) : Prop where
  turns : ∀ {t e}, (t, e) ∈ l.events → t ≤ l.turn
  closing : ∀ {b}, l.holder = some (.closing b) → (b = true ↔ (l.turn, .shutdown) ∈ l.events)
  closes : ∀ {t b}, (t, .closeReturned b) ∈ l.events → (b = true ↔ (t, .shutdown) ∈ l.events)
  shutdowns : ∀ {t}, (t, .shutdown) ∈ l.events →
    (t, .closeReturned true) ∈ l.events ∨ (l.holder = some (.closing true) ∧ t = l.turn)

/-- Events that have nothing to do with a close. -/
def Unrelated (events : List Event) : Prop :=
  .shutdown ∉ events ∧ ∀ b, .closeReturned b ∉ events

/-- Nobody is closing the handle. -/
def Quiet (l : Timeline ε) : Prop :=
  ∀ b, l.holder ≠ some (.closing b)

theorem quiet_of_free (free : l.holder = none) : l.Quiet := by
  intro b closing
  rw [free] at closing
  cases closing

theorem Owned.turns_append (h : l.Owned) {n t : Nat} {e : Event} {new : List Event}
    (later : l.turn ≤ n) (member : (t, e) ∈ l.events ++ new.map (n, ·)) : t ≤ n := by
  obtain old | ⟨rfl, _⟩ := mem_append_turn.mp member
  · exact Nat.le_trans (h.turns old) later
  · exact Nat.le_refl _

theorem Owned.returned (h : l.Owned) (quiet : l.Quiet) {t : Nat}
    (member : (t, .shutdown) ∈ l.events) : (t, .closeReturned true) ∈ l.events :=
  (h.shutdowns member).resolve_right fun closing => quiet true closing.1

/-- A turn that has nothing to do with a close keeps every shutdown where it is. -/
theorem Owned.unrelated (h : l.Owned) (before : l.Quiet) (after : l'.Quiet)
    (later : l.turn ≤ l'.turn) {new : List Event}
    (events : l'.events = l.events ++ new.map (l'.turn, ·)) (other : Unrelated new) : l'.Owned where
  turns member := h.turns_append later (events ▸ member)
  closing closing := absurd closing (after _)
  closes member := by
    rw [events] at member ⊢
    obtain old | ⟨_, here⟩ := mem_append_turn.mp member
    · rw [h.closes old, mem_append_turn]
      simp only [other.1, and_false, or_false]
    · exact absurd here (other.2 _)
  shutdowns member := by
    rw [events] at member ⊢
    obtain old | ⟨_, here⟩ := mem_append_turn.mp member
    · exact .inl (mem_append_turn.mpr (.inl (h.returned before old)))
    · exact absurd here other.1

theorem Owned.fresh (h : l.Owned) {e : Event} : (l.turn + 1, e) ∉ l.events :=
  fun member => Nat.not_succ_le_self _ (h.turns member)

theorem Owned.close (h : l.Owned) (free : l.holder = none) {handle : Handle ε} {b : Bool} :
    (l.enter handle (some (.closing b)) (if b then [.shutdown] else [])).Owned where
  turns member := h.turns_append (Nat.le_succ _) member
  closing closing := by
    cases closing
    simp only [mem_enter, turn_enter, h.fresh, false_or, true_and]
    cases b <;> simp
  closes := by
    intro t b' member
    obtain old | ⟨_, here⟩ := mem_enter.mp member
    · -- A shutdown in this turn is none of an earlier close.
      have past : t ≠ l.turn + 1 := Nat.ne_of_lt (Nat.lt_succ_of_le (h.turns old))
      simp only [mem_enter, past, false_and, or_false]
      exact h.closes old
    · cases b <;> simp at here
  shutdowns member := by
    obtain old | ⟨rfl, here⟩ := mem_enter.mp member
    · exact .inl (mem_enter.mpr (.inl (h.returned (quiet_of_free free) old)))
    · cases b with
      | true => exact .inr ⟨rfl, rfl⟩
      | false => cases here

theorem Owned.finish (h : l.Owned) {b : Bool} (closing : l.holder = some (.closing b)) :
    (l.leave l.handle [.closeReturned b]).Owned where
  turns member := h.turns_append (Nat.le_refl _) member
  closing closing := by cases closing
  closes := by
    intro t b' member
    have same : (t, Event.shutdown) ∈ (l.leave l.handle [.closeReturned b]).events ↔
        (t, .shutdown) ∈ l.events := by
      simp [mem_leave]
    rw [same]
    obtain old | ⟨rfl, here⟩ := mem_leave.mp member
    · exact h.closes old
    · cases List.mem_singleton.mp here
      exact h.closing closing
  shutdowns := by
    intro t member
    obtain old | ⟨_, here⟩ := mem_leave.mp member
    · obtain returned | ⟨releasing, rfl⟩ := h.shutdowns old
      · exact .inl (mem_leave.mpr (.inl returned))
      · -- The close that was under way is the one that returns.
        rw [closing] at releasing
        cases releasing
        exact .inl (mem_leave.mpr (.inr ⟨rfl, List.mem_singleton_self _⟩))
    · cases List.mem_singleton.mp here

theorem Owned.transition (h : l.Owned) (step : Transition shutdown l l') : l'.Owned := by
  cases step with
  | superfluous free | tooLate free | begin free | acquire e free | refuse free =>
    exact h.unrelated (quiet_of_free free) nofun (Nat.le_succ _) rfl ⟨by simp, by simp⟩
  | create e creating | fail err creating | abandon creating =>
    have quiet : l.Quiet := by rw [Quiet, creating]; nofun
    exact h.unrelated quiet nofun (Nat.le_refl _) rfl ⟨by simp, by simp⟩
  | use e inUse full => exact ⟨h.turns, h.closing, h.closes, h.shutdowns⟩
  | release inUse =>
    have quiet : l.Quiet := by rw [Quiet, inUse]; nofun
    exact h.unrelated quiet nofun (Nat.le_refl _) rfl ⟨by simp, by simp⟩
  | closeFull e free full => exact h.close free
  | closeEmpty free empty => exact h.close free
  | finish b closing => exact h.finish closing

/-! ## Nobody uses the engine meanwhile -/

/-- Whenever the engine was shut down, everybody who had acquired it had given it back. -/
def Alone (events : List (Nat × Event)) : Prop :=
  ∀ i t, events[i]? = some (t, .shutdown) →
    tally (events.take i) .acquired = tally (events.take i) .released

theorem Alone.append {events new : List (Nat × Event)} (h : Alone events)
    (quiet : ∀ t, (t, .shutdown) ∉ new) : Alone (events ++ new) := by
  intro i t found
  by_cases old : i < events.length
  · rw [List.getElem?_append_left old] at found
    rw [List.take_append_of_le_length (Nat.le_of_lt old)]
    exact h i t found
  · rw [List.getElem?_append_right (by omega)] at found
    exact absurd (List.mem_of_getElem? found) (quiet t)

theorem Alone.append_shutdown {events : List (Nat × Event)} (h : Alone events) (t : Nat)
    (unused : tally events .acquired = tally events .released) :
    Alone (events ++ [(t, .shutdown)]) := by
  intro i u found
  by_cases old : i < events.length
  · rw [List.getElem?_append_left old] at found
    rw [List.take_append_of_le_length (Nat.le_of_lt old)]
    exact h i u found
  · have last : i = events.length := by
      have inside := (List.getElem?_eq_some_iff.mp found).1
      simp only [List.length_append, List.length_singleton] at inside
      omega
    rw [last, List.take_left]
    exact unused

theorem Alone.transition (h : Alone l.events) (tallied : l.Tallied)
    (step : Transition shutdown l l') : Alone l'.events := by
  cases step with
  | use e inUse full => exact h
  | closeFull e free full =>
    refine h.append_shutdown _ ?_
    -- The lock is free, so that everybody has given the engine back.
    have uses := tallied.uses
    rw [free] at uses
    simpa [count] using uses
  | _ => exact h.append (by simp)

/-! ## Whole runs -/

/-- What holds of a handle at any time. -/
structure Sound (l : Timeline ε) : Prop where
  fits : l.Fits
  tallied : l.Tallied
  owned : l.Owned
  alone : Alone l.events

theorem sound_start (engine : Option ε) : (start engine).Sound := by
  cases engine with
  | none =>
    exact {
      fits := ⟨nofun, nofun⟩
      tallied := ⟨rfl, .inl rfl, rfl, rfl, .inl rfl⟩
      owned := ⟨nofun, nofun, nofun, nofun⟩
      alone := nofun }
  | some e =>
    exact {
      fits := ⟨fun _ => rfl, fun _ => rfl⟩
      tallied := ⟨rfl, .inl rfl, rfl, rfl, .inl rfl⟩
      owned := ⟨nofun, nofun, nofun, nofun⟩
      alone := nofun }

theorem Sound.transition (h : l.Sound) (step : Transition shutdown l l') : l'.Sound where
  fits := h.fits.transition step
  tallied := h.tallied.transition h.fits step
  owned := h.owned.transition step
  alone := h.alone.transition h.tallied step

theorem Sound.step (h : l.Sound) (a : Act ε) : (l.step shutdown a).Sound := by
  obtain same | moved := step_cases shutdown l a
  · rw [same]; exact h
  · exact h.transition moved

theorem Sound.play (h : l.Sound) (acts : List (Act ε)) : (l.play shutdown acts).Sound := by
  induction acts generalizing l with
  | nil => exact h
  | cons a acts ih => exact ih (h.step a)

/-! ## What is over for good -/

theorem closed_transition (fits : l.Fits) (closed : l.handle.phase = .closed)
    (step : Transition shutdown l l') : l'.handle.phase = .closed := by
  cases step with
  | begin free unready open_ => exact absurd closed open_
  | create e creating | fail err creating =>
    rw [(fits.creating creating).1] at closed
    cases closed
  | closeFull | closeEmpty => rfl
  | _ => exact closed

theorem Sound.closed_play (h : l.Sound) (closed : l.handle.phase = .closed) (acts : List (Act ε)) :
    (l.play shutdown acts).handle.phase = .closed := by
  induction acts generalizing l with
  | nil => exact closed
  | cons a acts ih =>
    refine ih (h.step a) ?_
    obtain same | moved := step_cases shutdown l a
    · rw [same]; exact closed
    · exact closed_transition h.fits closed moved

/-- A handle that has its engine, or has had it, needs no factory. -/
theorem settled_transition (fits : l.Fits)
    (settled : l.handle.phase = .ready ∨ l.handle.phase = .closed)
    (step : Transition shutdown l l') :
    (l'.handle.phase = .ready ∨ l'.handle.phase = .closed) ∧
      l'.count .factoryBegan = l.count .factoryBegan := by
  cases step with
  | begin free unready open_ => exact absurd settled (not_or.mpr ⟨unready, open_⟩)
  | create e creating | fail err creating =>
    rw [(fits.creating creating).1] at settled
    exact settled.elim nofun nofun
  | closeFull | closeEmpty => exact ⟨.inr rfl, by simp⟩
  | _ => exact ⟨settled, by simp⟩

theorem Sound.settled_play (h : l.Sound)
    (settled : l.handle.phase = .ready ∨ l.handle.phase = .closed) (acts : List (Act ε)) :
    (l.play shutdown acts).count .factoryBegan = l.count .factoryBegan := by
  induction acts generalizing l with
  | nil => rfl
  | cons a acts ih =>
    obtain same | moved := step_cases shutdown l a
    · change (Timeline.play shutdown (l.step shutdown a) acts).count _ = _
      rw [same]
      exact ih h settled
    · obtain ⟨still, none_⟩ := settled_transition h.fits settled moved
      exact (ih (h.step a) still).trans none_

/-! ## The life cycle -/

theorem Sound.events_acquire (h : l.Sound) (free : l.holder = none) :
    (l.step shutdown .acquire).events = l.events ++
      [(l.turn + 1, if l.handle.phase = .ready then .acquired else .refused .sessionClosed)] := by
  have fits := h.fits.free free
  cases slot : l.handle.slot with
  | some e =>
    have ready : l.handle.phase = .ready := fits.mp (by rw [slot]; rfl)
    simp [Timeline.step, free, Handle.acquire, slot, ready, enter]
  | none =>
    have unready := h.fits.unready free slot
    simp [Timeline.step, free, Handle.acquire, slot, unready, enter]

/-- After a factory that failed or was dropped, the next one can succeed. -/
theorem Sound.again (h : l.Sound) (creating : l.holder = some .creating) {a : Act ε}
    (ends : a = .abandon ∨ ∃ err, a = .made (.error err)) (e : ε) :
    let next := l.play shutdown [a, .init, .made (.ok e)]
    next.handle = .ready e ∧ next.count (.initReturned true) = l.count (.initReturned true) + 1 := by
  obtain ⟨initializing, _⟩ := h.fits.creating creating
  have never := h.tallied.retired_nil (by rw [initializing]; nofun)
  obtain ⟨⟨phase, slot, retired⟩, holder, turn, events⟩ := l
  cases creating
  cases initializing
  cases never
  obtain rfl | ⟨err, rfl⟩ := ends
  · exact ⟨rfl, by simp [Timeline.play, Timeline.step, vacancy, endCreation, Event.ofInit]⟩
  · exact ⟨rfl, by simp [Timeline.play, Timeline.step, vacancy, endCreation, Event.ofInit]⟩

/-- A close empties the handle for good, and shuts the engine down if there is one. -/
theorem step_close (shutdown : ε → ε) (free : l.holder = none) :
    (l.step shutdown .close).holder = some (.closing l.handle.slot.isSome) ∧
      (l.step shutdown .close).handle =
        { phase := .closed, slot := none
          retired := (l.handle.slot.map shutdown).toList ++ l.handle.retired } := by
  obtain ⟨⟨phase, slot, retired⟩, holder, turn, events⟩ := l
  cases free
  cases slot with
  | some e => exact ⟨rfl, rfl⟩
  | none => exact ⟨rfl, rfl⟩

/-- The life of a handle, whatever its tasks do and in whatever order they get the lock.  Whenever
the lock is free, there is an engine exactly if the handle is ready, and a closed handle stays
closed.  No factory is started on a handle that has been ready or closed, nor while one runs, and
one that fails or is dropped leaves room for another one.  A task that gets the lock acquires the
engine of a ready handle and is refused otherwise.  A close leaves the handle closed and empty; the
engine is shut down at most once, by the close that says so and by no other, and never while
somebody has acquired it. -/
theorem life_cycle (shutdown : ε → ε) (engine : Option ε) (acts : List (Act ε)) :
    let l := (start engine).play shutdown acts
    (l.holder = none → (l.handle.slot.isSome ↔ l.handle.phase = .ready)) ∧
    (l.handle.phase = .closed → ∀ more, (l.play shutdown more).handle.phase = .closed) ∧
    (l.handle.phase = .ready ∨ l.handle.phase = .closed →
      ∀ more, (l.play shutdown more).count .factoryBegan = l.count .factoryBegan) ∧
    l.count .factoryBegan ≤ l.count .factoryEnded + l.count .factoryDropped + 1 ∧
    l.count (.initReturned true) ≤ 1 ∧
    (l.holder = some .creating →
      (∀ err, (l.step shutdown (.made (.error err))).handle.phase = .uninitialized) ∧
      ∀ a, (a = .abandon ∨ ∃ err, a = .made (.error err)) → ∀ e,
        let next := l.play shutdown [a, .init, .made (.ok e)]
        next.handle = .ready e ∧
          next.count (.initReturned true) = l.count (.initReturned true) + 1) ∧
    (l.holder = none → (l.step shutdown .acquire).events = l.events ++
      [(l.turn + 1, if l.handle.phase = .ready then .acquired else .refused .sessionClosed)]) ∧
    (l.holder = none →
      (l.step shutdown .close).holder = some (.closing l.handle.slot.isSome) ∧
      (l.step shutdown .close).handle =
        { phase := .closed, slot := none
          retired := (l.handle.slot.map shutdown).toList ++ l.handle.retired }) ∧
    l.count .shutdown = l.handle.retired.length ∧ l.count .shutdown ≤ 1 ∧
    (∀ t b, (t, .closeReturned b) ∈ l.events → (b = true ↔ (t, .shutdown) ∈ l.events)) ∧
    (∀ t, (t, .shutdown) ∈ l.events →
      (t, .closeReturned true) ∈ l.events ∨ (l.holder = some (.closing true) ∧ t = l.turn)) ∧
    (∀ i t, l.events[i]? = some (t, .shutdown) →
      tally (l.events.take i) .acquired = tally (l.events.take i) .released) := by
  intro l
  have h : l.Sound := (sound_start engine).play acts
  refine ⟨h.fits.free, h.closed_play, h.settled_play, ?_, ?_, ?_, h.events_acquire,
    step_close shutdown, h.tallied.shutdowns, ?_, fun t b => h.owned.closes,
    fun t => h.owned.shutdowns, h.alone⟩
  · rw [h.tallied.creations]
    split <;> omega
  · rcases h.tallied.created with none_ | ⟨once, _⟩ <;> omega
  · intro creating
    refine ⟨fun err => ?_, fun a ends e => h.again creating ends e⟩
    simp [Timeline.step, creating, endCreation, leave]
  · rw [h.tallied.shutdowns]
    obtain none_ | ⟨once, _⟩ := h.tallied.retired
    · simp [none_]
    · omega

end NotebookKernel.Handle.Timeline
