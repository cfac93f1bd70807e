import NotebookKernel.Proofs.Mailbox.Journal

/-! # Waking a poller

The bell of a mailbox rings after the mailbox has been changed, and not together with it.  `Watch`
takes all deeds apart: a task changes the mailbox, owes its calls for a while, and pays them one by
one, while the poller looks, checks whether the mailbox has stopped, and lies down in steps of its
own.  Everything may happen between two of these steps.

A poller that should look has been told to as soon as no call is owed (`Alert`): there is a permit,
if it has not lain down, and its bell has rung, if it sleeps.  It does not matter which task has
paid, since every call of the bell leaves this behind.
-/

namespace NotebookKernel.Mailbox

variable {α β : Type}

/-! ## Calls that are owed -/

/-- What a task still has to do after it has changed a mailbox. -/
inductive Debt where
  | one
  /-- It wakes everyone, and calls once more for a poller that is about to sleep. -/
  | all
  deriving Repr, DecidableEq

def Debt.settle (b : Bell) : Debt → Bell
  | .one => b.ring
  | .all => b.ringAll.ring

/-- What a deed does to the mailbox, and the calls that it owes then. -/
def Deed.change (m : Mailbox α β) : Deed α β → List Debt × Mailbox α β
  | .send request =>
    match m.send request with
    | (.ok _, m) => ([.one], m)
    | (.error _, m) => ([], m)
  | .tryPoll => ([], m.tryPoll.2)
  | .reply b => ([.one], (m.reply b).2)
  | .shutdown => ([.all], m.shutdown)
  | .receive t => ([], (m.receive t).2)
  | .drop t => ([], m.drop t)

/-- A deed that nobody disturbs changes the mailbox and pays at once. -/
theorem perform_eq (p : Post α β) (d : Deed α β) :
    (p.perform d).2 =
      { mailbox := (d.change p.mailbox).2
        bell := (d.change p.mailbox).1.foldl Debt.settle p.bell } := by
  cases d with
  | send request =>
    simp only [Post.perform, Post.send, Deed.change]
    rcases p.mailbox.send request with ⟨_ | ticket, m⟩ <;> rfl
  | _ => rfl

/-- Somebody ought to look: the mailbox has stopped, or there is a request that can be taken. -/
def Wanted (m : Mailbox α β) : Prop :=
  m.stopped = true ∨ m.tryPoll.1.isSome

theorem isSome_tryPoll_iff (m : Mailbox α β) :
    m.tryPoll.1.isSome ↔ m.stopped = false ∧ m.pending = none ∧ m.queue ≠ [] := by
  unfold tryPoll
  cases m.stopped <;> cases m.pending <;> cases m.queue <;> simp

/-- A deed that owes nothing gives nobody a reason to look. -/
theorem change_silent {m : Mailbox α β} {d : Deed α β} (silent : (d.change m).1 = []) :
    (d.change m).2.stopped = m.stopped ∧
      ((d.change m).2.tryPoll.1.isSome → m.tryPoll.1.isSome) := by
  cases d with
  | send request =>
    cases stopped : m.stopped with
    | true =>
      simp only [Deed.change, send, stopped, if_true]
      exact ⟨trivial, id⟩
    | false => simp [Deed.change, send, stopped] at silent
  | tryPoll =>
    obtain same | ⟨t, r, queue, open_, free, filled, polled⟩ := tryPoll_cases m
    · simp only [Deed.change, same]
      exact ⟨trivial, id⟩
    · simp only [Deed.change, polled]
      exact ⟨trivial, fun _ => rfl⟩
  | reply b => cases silent
  | shutdown => cases silent
  | receive t =>
    obtain same | ⟨b, answered, fetched⟩ := receive_cases m t
    · simp only [Deed.change, same]
      exact ⟨trivial, id⟩
    · simp only [Deed.change, fetched, isSome_tryPoll_iff]
      exact ⟨trivial, id⟩
  | drop t =>
    simp only [Deed.change, drop, isSome_tryPoll_iff]
    exact ⟨trivial, id⟩

/-! ## What can happen -/

/-- Where the poller is. -/
inductive Spot (α : Type) where
  | phase (p : PollPhase α)
  /-- It is about to lie down; `called` says that everyone has been woken since then. -/
  | enlisting (called : Bool)

def Spot.call : Spot α → Spot α
  | .enlisting _ => .enlisting true
  | s => s

def Spot.sleeps : Spot α → Bool
  | .phase .asleep => true
  | _ => false

@[simp] theorem Spot.sleeps_call (s : Spot α) : s.call.sleeps = s.sleeps := by
  cases s <;> rfl

/-- A mailbox with one poller and any number of tasks that change it. -/
structure Watch (α β : Type) where
  post : Post α β
  /-- A shutdown has raised the flag and still has the lock; the requests are there yet. -/
  stopping : Bool
  /-- One for each task that has changed the mailbox and has calls to make. -/
  debts : List Debt
  spot : Spot α

/-- Whether a deed can be done; the lock is taken while a mailbox is being stopped.  The receipts
of the clients need no lock. -/
def Deed.admitted (stopping : Bool) : Deed α β → Bool
  | .shutdown => stopping
  | .receive _ | .drop _ => true
  | _ => !stopping

namespace Watch

inductive Act (α β : Type) where
  /-- A task changes the mailbox.  A shutdown has raised its flag before. -/
  | deed (d : Deed α β)
  | raise
  /-- A task makes the next one of the calls that it owes. -/
  | settle (i : Nat)
  /-- The worker polls again. -/
  | begin
  | go
  /-- The time of a sleeping poller is up, or it is dropped.  A call that it has not noticed may
      be passed on. -/
  | giveUp (kept : Bool)

def new : Watch α β :=
  { post := .new, stopping := false, debts := [], spot := .phase (.done none) }

abbrev mailbox (w : Watch α β) : Mailbox α β :=
  w.post.mailbox

abbrev bell (w : Watch α β) : Bell :=
  w.post.bell

def follow (w : Watch α β) : PollPhase α × Post α β → Watch α β
  | (phase, post) => { w with post, spot := .phase phase }

def perform (w : Watch α β) (d : Deed α β) : Watch α β :=
  let (debts, mailbox) := d.change w.mailbox
  { w with
    post := { w.post with mailbox }
    stopping := match d with | .shutdown => false | _ => w.stopping
    debts := w.debts ++ debts }

def stop (w : Watch α β) : Watch α β :=
  { w with
    post := { w.post with mailbox := { w.mailbox with stopped := true } }, stopping := true }

def settle (w : Watch α β) (i : Nat) : Watch α β :=
  match w.debts[i]? with
  | none => w
  | some .one => { w with post := { w.post with bell := w.bell.ring }, debts := w.debts.eraseIdx i }
  | some .all =>
    { w with
      post := { w.post with bell := w.bell.ringAll }
      debts := w.debts.set i .one, spot := w.spot.call }

/-- The poller `id` takes a step. -/
def go (w : Watch α β) (id : Nat) : Watch α β :=
  match w.spot with
  | .phase .looking => if w.stopping then w else w.follow (w.post.pollStep id .looking)
  | .phase .checking => w.follow (w.post.pollStep id .checking)
  | .phase .dozing => { w with spot := .enlisting false }
  | .enlisting called =>
    -- a permit is taken first, even by a poller that need not sleep
    if called && !w.bell.permit then { w with spot := .phase .looking }
    else w.follow (w.post.pollStep id .dozing)
  | .phase .asleep =>
    let (woken, bell) := w.bell.getUp id
    if woken then { w with post := { w.post with bell }, spot := .phase .looking } else w
  | .phase (.done _) => w

def giveUp (w : Watch α β) (id : Nat) (kept : Bool) : Watch α β :=
  let (woken, bell) := w.bell.getUp id
  let bell := if woken && kept then bell.ring else bell
  { w with post := { w.post with bell }, spot := .phase (.done none) }

def step (id : Nat) (w : Watch α β) : Act α β → Watch α β
  | .deed d => if d.admitted w.stopping then w.perform d else w
  | .raise => if w.stopping then w else w.stop
  | .settle i => w.settle i
  | .begin =>
    match w.spot with
    | .phase (.done _) => { w with spot := .phase .looking }
    | _ => w
  | .go => w.go id
  | .giveUp kept =>
    match w.spot with
    | .phase .asleep => w.giveUp id kept
    | _ => w

def play (w : Watch α β) (id : Nat) (acts : List (Act α β)) : Watch α β :=
  acts.foldl (step id) w

/-! ## A poller that nobody disturbs -/

variable {id : Nat} {w : Watch α β}

theorem play_append (w : Watch α β) (id : Nat) (acts more : List (Act α β)) :
    w.play id (acts ++ more) = (w.play id acts).play id more :=
  List.foldl_append

/-- Lying down takes two steps here. -/
theorem exists_go (p : Post α β) (phase : PollPhase α) (free : w.stopping = false) :
    ∃ n, (w.follow (phase, p)).play id (List.replicate n .go) =
      w.follow (p.pollStep id phase) := by
  cases phase with
  | looking =>
    refine ⟨1, ?_⟩
    simp [play, step, go, follow, free]
  | checking => exact ⟨1, rfl⟩
  | dozing => exact ⟨2, rfl⟩
  | asleep => exact ⟨0, rfl⟩
  | done request => exact ⟨1, rfl⟩

/-- Steps of the poller alone are those of the program. -/
theorem exists_go_pollRun (p : Post α β) (phase : PollPhase α) (free : w.stopping = false) :
    ∃ n, (w.follow (phase, p)).play id (List.replicate n .go) =
      w.follow (p.pollRun id phase) := by
  have onward : ∀ reached : PollPhase α × Post α β,
      (∃ n, (w.follow (phase, p)).play id (List.replicate n .go) = w.follow reached) →
      ∃ n, (w.follow (phase, p)).play id (List.replicate n .go) =
        w.follow (reached.2.pollStep id reached.1) := by
    rintro ⟨phase', p'⟩ ⟨n, before⟩
    obtain ⟨m, last⟩ := exists_go p' phase' free
    refine ⟨n + m, ?_⟩
    rw [← List.replicate_append_replicate, play_append, before, last]
  have run := onward _ (onward _ (onward _ (onward _ (onward _ (onward (phase, p) ⟨0, rfl⟩)))))
  exact run

/-! ## A poller that should look knows it -/

/-- The sleeper is in the bell, and nobody else. -/
inductive Placed (id : Nat) (b : Bell) (s : Spot α) : Prop where
  | up (awake : s.sleeps = false) (nobody : b.sleepers = []) (unwoken : b.woken = [])
  | lying (sleeps : s.sleeps = true) (here : b.sleepers = [id]) (unwoken : b.woken = [])
  | roused (sleeps : s.sleeps = true) (nobody : b.sleepers = []) (woken : b.woken = [id])

/-- A poller that will not look anyhow has been told to, if it should. -/
def Alert (id : Nat) (p : Post α β) : Spot α → Prop
  | .phase .looking | .phase (.done _) => True
  -- it is going to see whether the mailbox has stopped
  | .phase .checking => p.mailbox.tryPoll.1.isSome → p.bell.permit = true
  | .phase .dozing | .enlisting _ => Wanted p.mailbox → p.bell.permit = true
  | .phase .asleep => Wanted p.mailbox → id ∈ p.bell.woken

/-- The poller is alert whenever no task is in between. -/
structure Sound (id : Nat) (w : Watch α β) : Prop where
  placed : Placed id w.bell w.spot
  alert : w.stopping = false → w.debts = [] → Alert id w.post w.spot

theorem sound_new : (new : Watch α β).Sound id where
  placed := .up rfl rfl rfl
  alert _ _ := trivial

/-! ### What a call does -/

theorem ring_of_nobody {b : Bell} (nobody : b.sleepers = []) :
    b.ring = { b with permit := true } := by
  simp only [Bell.ring, nobody]

theorem ring_of_lying {b : Bell} (here : b.sleepers = [id]) :
    b.ring = { b with sleepers := [], woken := b.woken ++ [id] } := by
  simp only [Bell.ring, here]

theorem getUp_of_lying {b : Bell} (here : b.sleepers = [id]) (unwoken : b.woken = []) :
    b.getUp id = (false, { b with sleepers := [] }) := by
  simp [Bell.getUp, here, unwoken]

theorem getUp_of_roused {b : Bell} (nobody : b.sleepers = []) (woken : b.woken = [id]) :
    b.getUp id = (true, { b with woken := [] }) := by
  simp [Bell.getUp, nobody, woken]

theorem Placed.ring {b : Bell} {s : Spot α} (placed : Placed id b s) : Placed id b.ring s := by
  cases placed with
  | up awake nobody unwoken =>
    rw [ring_of_nobody nobody]
    exact .up awake nobody unwoken
  | lying sleeps here unwoken =>
    rw [ring_of_lying here, unwoken]
    exact .roused sleeps rfl rfl
  | roused sleeps nobody woken =>
    rw [ring_of_nobody nobody]
    exact .roused sleeps nobody woken

theorem Placed.ringAll {b : Bell} {s : Spot α} (placed : Placed id b s) :
    Placed id b.ringAll s.call := by
  cases placed with
  | up awake nobody unwoken =>
    refine .up (s.sleeps_call.trans awake) rfl ?_
    rw [Bell.ringAll, nobody, unwoken, List.append_nil]
  | lying sleeps here unwoken =>
    refine .roused (s.sleeps_call.trans sleeps) rfl ?_
    rw [Bell.ringAll, here, unwoken, List.nil_append]
  | roused sleeps nobody woken =>
    refine .roused (s.sleeps_call.trans sleeps) rfl ?_
    rw [Bell.ringAll, nobody, woken, List.append_nil]

theorem Placed.woken_ring {b : Bell} {s : Spot α} (placed : Placed id b s)
    (sleeps : s.sleeps = true) : id ∈ b.ring.woken := by
  cases placed with
  | up awake => cases awake.symm.trans sleeps
  | lying _ here _ =>
    rw [ring_of_lying here]
    exact List.mem_append_right _ (List.mem_singleton_self id)
  | roused _ nobody woken =>
    rw [ring_of_nobody nobody, woken]
    exact List.mem_singleton_self id

theorem Placed.woken_ringAll {b : Bell} {s : Spot α} (placed : Placed id b s)
    (sleeps : s.sleeps = true) : id ∈ b.ringAll.woken := by
  cases placed with
  | up awake => cases awake.symm.trans sleeps
  | lying _ here _ =>
    rw [Bell.ringAll, here]
    exact List.mem_append_right _ (List.mem_singleton_self id)
  | roused _ nobody woken =>
    rw [Bell.ringAll, woken]
    exact List.mem_append_left _ (List.mem_singleton_self id)

/-- After a call the poller is alert, whatever has happened to the mailbox. -/
theorem Placed.alert_ring {b : Bell} {s : Spot α} (placed : Placed id b s) (m : Mailbox α β) :
    Alert id { mailbox := m, bell := b.ring } s := by
  have permit (awake : s.sleeps = false) : b.ring.permit = true := by
    cases placed with
    | up _ nobody _ => rw [ring_of_nobody nobody]
    | lying sleeps => cases awake.symm.trans sleeps
    | roused sleeps => cases awake.symm.trans sleeps
  cases s with
  | enlisting called => exact fun _ => permit rfl
  | phase phase =>
    cases phase with
    | looking => trivial
    | checking => exact fun _ => permit rfl
    | dozing => exact fun _ => permit rfl
    | asleep => exact fun _ => placed.woken_ring rfl
    | done request => trivial

/-! ### What a step preserves -/

/-- A poller stays alert if nobody has given it a new reason to look. -/
theorem Alert.mono {p : Post α β} {s : Spot α} {m : Mailbox α β} (alert : Alert id p s)
    (stopped : m.stopped = p.mailbox.stopped)
    (takeable : m.tryPoll.1.isSome → p.mailbox.tryPoll.1.isSome) :
    Alert id { p with mailbox := m } s := by
  have wanted : Wanted m → Wanted p.mailbox := by
    rintro (flag | request)
    · exact .inl (stopped ▸ flag)
    · exact .inr (takeable request)
  cases s with
  | enlisting called => exact alert ∘ wanted
  | phase phase =>
    cases phase with
    | looking => trivial
    | checking => exact alert ∘ takeable
    | dozing => exact alert ∘ wanted
    | asleep => exact alert ∘ wanted
    | done request => trivial

theorem Sound.perform (sound : w.Sound id) (d : Deed α β) : (w.perform d).Sound id where
  placed := sound.placed
  alert free quiet := by
    obtain ⟨paid, silent⟩ := List.append_eq_nil_iff.mp quiet
    have unstopped : w.stopping = false := by
      cases d with
      | shutdown => cases silent
      | _ => exact free
    obtain ⟨stopped, takeable⟩ := change_silent silent
    exact (sound.alert unstopped paid).mono stopped takeable

theorem Sound.stop (sound : w.Sound id) : w.stop.Sound id where
  placed := sound.placed
  alert free := nomatch free

theorem Sound.settle (sound : w.Sound id) (i : Nat) : (w.settle i).Sound id := by
  unfold Watch.settle
  split
  · exact sound
  · exact ⟨sound.placed.ring, fun _ _ => sound.placed.alert_ring _⟩
  · next owed =>
    refine ⟨sound.placed.ringAll, fun _ quiet => ?_⟩
    -- it owes another call yet
    rw [List.set_eq_nil_iff] at quiet
    simp [quiet] at owed

theorem Placed.nobody {b : Bell} {s : Spot α} (placed : Placed id b s) (awake : s.sleeps = false) :
    b.sleepers = [] ∧ b.woken = [] := by
  cases placed with
  | up _ nobody unwoken => exact ⟨nobody, unwoken⟩
  | lying sleeps => cases awake.symm.trans sleeps
  | roused sleeps => cases awake.symm.trans sleeps

theorem Sound.begin (sound : w.Sound id) {request : Option α}
    (here : w.spot = .phase (.done request)) : { w with spot := .phase .looking }.Sound id := by
  obtain ⟨nobody, unwoken⟩ := (here ▸ sound.placed).nobody rfl
  exact ⟨.up rfl nobody unwoken, fun _ _ => trivial⟩

theorem Sound.look (sound : w.Sound id) (here : w.spot = .phase .looking) :
    (w.follow (w.post.pollStep id .looking)).Sound id := by
  obtain ⟨nobody, unwoken⟩ := (here ▸ sound.placed).nobody rfl
  obtain nothing | ⟨t, r, queue, _, _, _, polled⟩ := tryPoll_cases w.mailbox
  · have looked : w.post.pollStep id .looking = (.checking, w.post) := by
      simp only [Post.pollStep, nothing]
    rw [looked]
    -- It has just seen that there is nothing to take.
    refine ⟨.up rfl nobody unwoken, fun _ _ request => ?_⟩
    simp only [follow, nothing, Option.isSome_none, Bool.false_eq_true] at request
  · have looked : w.post.pollStep id .looking = (.done (some r),
        { w.post with mailbox := { w.mailbox with queue, pending := some t } }) := by
      simp only [Post.pollStep, polled]
    rw [looked]
    exact ⟨.up rfl nobody unwoken, fun _ _ => trivial⟩

theorem Sound.check (sound : w.Sound id) (here : w.spot = .phase .checking) :
    (w.follow (w.post.pollStep id .checking)).Sound id := by
  obtain ⟨nobody, unwoken⟩ := (here ▸ sound.placed).nobody rfl
  cases stopped : w.mailbox.stopped with
  | true =>
    simp only [Post.pollStep, stopped, if_true]
    exact ⟨.up rfl nobody unwoken, fun _ _ => trivial⟩
  | false =>
    simp only [Post.pollStep, stopped, Bool.false_eq_true, if_false]
    refine ⟨.up rfl nobody unwoken, fun free quiet => ?_⟩
    have alert := sound.alert free quiet
    rw [here] at alert
    rintro (flag | request)
    · cases stopped.symm.trans flag
    · exact alert request

theorem Sound.doze (sound : w.Sound id) (here : w.spot = .phase .dozing) :
    { w with spot := .enlisting false }.Sound id := by
  obtain ⟨nobody, unwoken⟩ := (here ▸ sound.placed).nobody rfl
  refine ⟨.up rfl nobody unwoken, fun free quiet => ?_⟩
  have alert := sound.alert free quiet
  rw [here] at alert
  exact alert

theorem Sound.lieDown (sound : w.Sound id) {called : Bool} (here : w.spot = .enlisting called) :
    (w.follow (w.post.pollStep id .dozing)).Sound id := by
  obtain ⟨nobody, unwoken⟩ := (here ▸ sound.placed).nobody rfl
  cases permit : w.bell.permit with
  | true =>
    simp only [Post.pollStep, Bell.doze, permit, if_true]
    exact ⟨.up rfl nobody unwoken, fun _ _ => trivial⟩
  | false =>
    simp only [Post.pollStep, Bell.doze, permit, Bool.false_eq_true, if_false, nobody]
    -- There is no permit, so that nobody has had a reason to leave one.
    refine ⟨.lying rfl rfl unwoken, fun free quiet wanted => ?_⟩
    have alert := sound.alert free quiet
    rw [here] at alert
    cases permit.symm.trans (alert wanted)

theorem Sound.go (sound : w.Sound id) : (w.go id).Sound id := by
  unfold Watch.go
  split
  next here =>
    split
    · exact sound
    · exact sound.look here
  next here => exact sound.check here
  next here => exact sound.doze here
  next called here =>
    split
    · obtain ⟨nobody, unwoken⟩ := (here ▸ sound.placed).nobody rfl
      exact ⟨.up rfl nobody unwoken, fun _ _ => trivial⟩
    · exact sound.lieDown here
  next here =>
    cases here ▸ sound.placed with
    | up awake => cases awake
    | lying _ lies unwoken =>
      rw [getUp_of_lying lies unwoken]
      exact sound
    | roused _ nobody woken =>
      rw [getUp_of_roused nobody woken]
      exact ⟨.up rfl nobody rfl, fun _ _ => trivial⟩
  · exact sound

theorem Sound.giveUp (sound : w.Sound id) (here : w.spot = .phase .asleep) (kept : Bool) :
    (w.giveUp id kept).Sound id := by
  unfold Watch.giveUp
  refine ⟨?_, fun _ _ => trivial⟩
  cases here ▸ sound.placed with
  | up awake => cases awake
  | lying _ lies unwoken =>
    rw [getUp_of_lying lies unwoken]
    exact .up rfl rfl unwoken
  | roused _ nobody woken =>
    rw [getUp_of_roused nobody woken]
    cases kept with
    | true =>
      have up : Placed id { w.bell with woken := [] } (.phase (.done none) : Spot α) :=
        .up rfl nobody rfl
      exact up.ring
    | false => exact .up rfl nobody rfl

theorem Sound.step (sound : w.Sound id) (a : Act α β) : (w.step id a).Sound id := by
  unfold Watch.step
  split
  · split
    · exact sound.perform _
    · exact sound
  · split
    · exact sound
    · exact sound.stop
  · exact sound.settle _
  · split
    next here => exact sound.begin here
    · exact sound
  · exact sound.go
  · split
    next here => exact sound.giveUp here _
    · exact sound

theorem Sound.play (sound : w.Sound id) (acts : List (Act α β)) : (w.play id acts).Sound id := by
  induction acts generalizing w with
  | nil => exact sound
  | cons a acts ih => exact ih (sound.step a)

/-! ## No call is lost -/

theorem not_wanted_iff (m : Mailbox α β) :
    ¬ Wanted m ↔ m.stopped = false ∧ m.tryPoll.1 = none := by
  simp only [Wanted, not_or, Bool.not_eq_true, Option.isSome_eq_false_iff,
    Option.isNone_iff_eq_none]

/-- Whichever task makes the next call wakes a sleeper. -/
theorem Sound.settle_wakes (sound : w.Sound id) (asleep : w.spot = .phase .asleep) {i : Nat}
    (owed : i < w.debts.length) :
    (w.settle i).spot = .phase .asleep ∧ id ∈ (w.settle i).bell.woken := by
  have placed : Placed id w.bell (.phase .asleep : Spot α) := asleep ▸ sound.placed
  unfold Watch.settle
  split
  next none_ => exact absurd owed (Nat.not_lt.mpr (List.getElem?_eq_none_iff.mp none_))
  · exact ⟨asleep, placed.woken_ring rfl⟩
  · exact ⟨congrArg Spot.call asleep, placed.woken_ringAll rfl⟩

/-- A poller that has been woken looks again. -/
theorem go_of_woken (asleep : w.spot = .phase .asleep) (woken : id ∈ w.bell.woken) :
    (w.go id).spot = .phase .looking := by
  have rung : w.bell.woken.contains id = true := List.contains_iff_mem.mpr woken
  simp only [Watch.go, asleep, Bell.getUp, rung, if_true]

/-- A poller that sleeps, and whose bell has not rung, misses nothing when no task is in between:
the mailbox has not stopped and has nothing to give.  As long as calls are owed, the first one that
is made wakes it, and it looks again. -/
theorem no_wake_up_is_lost (id : Nat) (acts : List (Act α β))
    (asleep : ((new : Watch α β).play id acts).spot = .phase .asleep)
    (unwoken : id ∉ ((new : Watch α β).play id acts).bell.woken) :
    let w := (new : Watch α β).play id acts
    (w.stopping = false → w.debts = [] →
      w.mailbox.stopped = false ∧ w.mailbox.tryPoll.1 = none) ∧
    ∀ i < w.debts.length, ((w.step id (.settle i)).step id .go).spot = .phase .looking := by
  intro w
  have sound : w.Sound id := sound_new.play acts
  constructor
  · intro free quiet
    have alert : Alert id w.post (.phase .asleep : Spot α) := asleep ▸ sound.alert free quiet
    exact (not_wanted_iff w.mailbox).mp fun wanted => unwoken (alert wanted)
  · intro i owed
    obtain ⟨sleeps, woken⟩ := sound.settle_wakes asleep owed
    exact go_of_woken sleeps woken

/-- A poller is about to sleep when a request comes, and takes it; the next one has to wait for the
reply to it, so that the poller goes to sleep with a request in the queue. -/
def lateRequests : List (Act Nat Nat) :=
  [.begin, .go, .go, .deed (.send 7), .go, .settle 0, .go, .go,
    .begin, .deed (.send 8), .go, .settle 0, .go, .go, .go, .go, .go, .go, .go]

theorem nothing_is_lost_with_late_requests :
    ((new : Watch Nat Nat).play 0 lateRequests).mailbox.queue = [(1, 8)] ∧
      ((new : Watch Nat Nat).play 0 lateRequests).mailbox.stopped = false ∧
      ((new : Watch Nat Nat).play 0 lateRequests).mailbox.tryPoll.1 = none :=
  ⟨rfl, (no_wake_up_is_lost 0 lateRequests rfl (List.not_mem_nil)).1 rfl rfl⟩

end Watch

end NotebookKernel.Mailbox
