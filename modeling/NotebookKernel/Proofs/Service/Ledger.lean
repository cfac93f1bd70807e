import NotebookKernel.Proofs.Kernel.Sequence
import NotebookKernel.Proofs.Mailbox.Delivery
import NotebookKernel.Service.Basic

/-! # The ledger of a service

A ledger follows a service while clients leave requests, look for their replies and go away,
and while the worker makes its steps, in any order.  It keeps the requests that the kernel
handled, each with the reply that came of it.

`Ledger.Follows` is the simulation between the service and two simpler things: the journal of
its mailbox, in which the worker is just a poller, and the kernel that handles requests one
after the other.  The worker is always at one of three points between the two.
-/

namespace NotebookKernel

open NotebookKernel.Mailbox (Deed Journal)

variable {ε : Type}

/-! ## What can happen -/

/-- The request that the kernel handled between two looks at the worker, with its reply. -/
def Work.handling : Work → Work → List (Request × Reply)
  | .taken r, .handled b => [(r, b)]
  | _, _ => []

namespace Service

/-- What a client or the worker does next. -/
inductive Move where
  | send (request : Request)
  | work
  | fetch (ticket : Nat)
  | drop (ticket : Nat)

def Move.request? : Move → Option Request
  | .send r => some r
  | _ => none

def requestsOf (moves : List Move) : List Request :=
  moves.filterMap Move.request?

/-- A service after one move. -/
def move (E : Engine ε) (s : Service ε) : Move → Service ε
  | .send r => (s.send r).2
  | .work => s.step E
  | .fetch t => (s.fetch t).2
  | .drop t => { s with mailbox := s.mailbox.drop t }

/-- A service with the requests that its kernel handled. -/
structure Ledger (ε : Type) where
  service : Service ε
  handled : List (Request × Reply)

namespace Ledger

def new (k : Kernel ε) : Ledger ε :=
  { service := .new k, handled := [] }

/-- Make a move and note what the kernel did. -/
def move (E : Engine ε) (l : Ledger ε) (m : Move) : Ledger ε :=
  let service := l.service.move E m
  { service, handled := l.handled ++ l.service.work.handling service.work }

def play (E : Engine ε) (l : Ledger ε) (moves : List Move) : Ledger ε :=
  moves.foldl (move E) l

theorem play_append (E : Engine ε) (l : Ledger ε) (ms ns : List Move) :
    l.play E (ms ++ ns) = (l.play E ms).play E ns := by
  simp only [play, List.foldl_append]

/-! ## What a move is for the mailbox -/

/-- What a move does to the mailbox. -/
def deeds (s : Service ε) : Move → List (Deed Request Reply)
  | .send r => [.send r]
  | .work =>
    match s.work with
    | .idle => [.tryPoll]
    | .taken _ => []
    | .handled b => [.reply b]
  | .fetch t => [.receive t]
  | .drop t => [.drop t]

/-- Where the worker is between the requests that came out, the requests that were handled and
    the replies that were delivered. -/
def Stage (taken : List Request) (handled : List (Request × Reply)) (replied : List Reply) :
    Work → Prop
  | .idle => taken = handled.map Prod.fst ∧ replied = handled.map Prod.snd
  | .taken r => taken = handled.map Prod.fst ++ [r] ∧ replied = handled.map Prod.snd
  | .handled b => taken = handled.map Prod.fst ∧ replied ++ [b] = handled.map Prod.snd

section Stage

variable {taken : List Request} {handled : List (Request × Reply)} {replied : List Reply} {w : Work}

theorem Stage.handled_initial (h : Stage taken handled replied w) :
    handled.map Prod.fst <+: taken := by
  cases w with
  | idle => exact h.1 ▸ List.prefix_rfl
  | taken r => exact h.1 ▸ List.prefix_append _ [r]
  | handled b => exact h.1 ▸ List.prefix_rfl

theorem Stage.replied_initial (h : Stage taken handled replied w) :
    replied <+: handled.map Prod.snd := by
  cases w with
  | idle => exact h.2 ▸ List.prefix_rfl
  | taken r => exact h.2 ▸ List.prefix_rfl
  | handled b => exact h.2 ▸ List.prefix_append _ [b]

end Stage

/-- A deed that some move accounts for: a client's own doings are its moves, and nothing is
    shut down. -/
def Owned (moves : List Move) : Deed Request Reply → Prop
  | .shutdown => False
  | .receive t => .fetch t ∈ moves
  | .drop t => .drop t ∈ moves
  | _ => True

theorem Owned.append {moves : List Move} {d : Deed Request Reply} (h : Owned moves d) (m : Move) :
    Owned (moves ++ [m]) d := by
  cases d with
  | receive t => exact List.mem_append_left _ h
  | drop t => exact List.mem_append_left _ h
  | send _ | tryPoll | reply _ | shutdown => exact h

/-- A ledger of a service for `k` follows the journal of its mailbox and the kernel that
    handles one request after the other. -/
structure Follows (E : Engine ε) (k : Kernel ε) (moves : List Move) (l : Ledger ε)
    (ds : List (Deed Request Reply)) : Prop where
  mailbox : l.service.mailbox = (Journal.new.play ds).mailbox
  accepted : (Journal.new.play ds).accepted.map Prod.snd = requestsOf moves
  owned : ∀ d ∈ ds, Owned moves d
  replies : k.replies E (l.handled.map Prod.fst) = l.handled.map Prod.snd
  kernel : k.after E (l.handled.map Prod.fst) = l.service.kernel
  stage : Stage (Journal.new.play ds).taken l.handled (Journal.new.play ds).replied l.service.work

variable {E : Engine ε} {k : Kernel ε} {moves : List Move} {l : Ledger ε}
  {ds : List (Deed Request Reply)}

theorem follows_new (E : Engine ε) (k : Kernel ε) : Follows E k [] (new k) [] where
  mailbox := rfl
  accepted := rfl
  owned := by simp
  replies := rfl
  kernel := rfl
  stage := ⟨rfl, rfl⟩

/-! ## The simulation, move by move -/

@[simp] theorem handling_self (w : Work) : w.handling w = [] := by
  cases w <;> rfl

theorem fetch_fst (s : Service ε) (t : Nat) :
    (s.fetch t).1 = match (s.mailbox.receive t).1 with
      | .value b => .ok b
      | _ => .error .sessionClosed := by
  unfold fetch
  split <;> simp_all

@[simp] theorem fetch_snd (s : Service ε) (t : Nat) :
    (s.fetch t).2 = { s with mailbox := (s.mailbox.receive t).2 } := by
  unfold fetch
  split <;> simp_all

@[simp] theorem requestsOf_work (moves : List Move) :
    requestsOf (moves ++ [.work]) = requestsOf moves := by
  simp [requestsOf, Move.request?]

theorem play_concat (ds : List (Deed Request Reply)) (d : Deed Request Reply) :
    Journal.new.play (ds ++ [d]) = (Journal.new.play ds).perform d := by
  rw [Journal.play_append]; rfl

theorem Follows.running (h : Follows E k moves l ds) :
    (Journal.new.play ds).mailbox.stopped = false :=
  (Journal.stopped_eq_false_iff ds).mpr fun stop => h.owned _ stop

theorem owned_append {m : Move} {d : Deed Request Reply} (h : ∀ d ∈ ds, Owned moves d)
    (own : Owned (moves ++ [m]) d) : ∀ d' ∈ ds ++ [d], Owned (moves ++ [m]) d' := by
  intro d' member
  obtain old | last := List.mem_append.mp member
  · exact (h d' old).append m
  · rw [List.mem_singleton.mp last]
    exact own

theorem Follows.send (h : Follows E k moves l ds) (r : Request) :
    Follows E k (moves ++ [.send r]) (l.move E (.send r)) (ds ++ [.send r]) := by
  have step := Journal.perform_send (Journal.new.play ds) r h.running
  exact {
    mailbox := by
      rw [play_concat, Journal.mailbox_perform_send, ← h.mailbox]
      rfl
    accepted := by
      rw [play_concat, step]
      simp [h.accepted, requestsOf, Move.request?]
    owned := owned_append h.owned (by trivial)
    replies := by simpa [Ledger.move, Service.move, Service.send] using h.replies
    kernel := by simpa [Ledger.move, Service.move, Service.send] using h.kernel
    stage := by
      rw [play_concat, step]
      simpa [Ledger.move, Service.move, Service.send] using h.stage }

theorem Follows.poll (h : Follows E k moves l ds) (idle : l.service.work = .idle) :
    Follows E k (moves ++ [.work]) (l.move E .work) (ds ++ [.tryPoll]) := by
  have stage := h.stage
  rw [idle] at stage
  have owned : ∀ d ∈ ds ++ [.tryPoll], Owned (moves ++ [.work]) d :=
    owned_append h.owned (by trivial)
  rcases Mailbox.tryPoll_cases (Journal.new.play ds).mailbox with
    nothing | ⟨t, r, queue, running, free, first, polled⟩
  · -- A worker that finds nothing changes neither the service nor the journal.
    have stays : l.move E .work = l := by
      rw [← h.mailbox] at nothing
      simp only [Ledger.move, Service.move, Service.step, idle, nothing]
      rw [← idle, handling_self, List.append_nil]
    have quiet : Journal.new.play (ds ++ [.tryPoll]) = Journal.new.play ds := by
      rw [play_concat, Journal.perform_tryPoll_none _ nothing]
    rw [stays]
    exact {
      mailbox := quiet ▸ h.mailbox
      accepted := by rw [quiet, requestsOf_work, h.accepted]
      owned
      replies := h.replies
      kernel := h.kernel
      stage := quiet ▸ h.stage }
  · have takes : l.move E .work = { l with service := { l.service with
        mailbox := { (Journal.new.play ds).mailbox with queue, pending := some t }
        work := .taken r } } := by
      simp [Ledger.move, Service.move, Service.step, idle, h.mailbox, polled, Work.handling]
    have step := Journal.perform_tryPoll_some (Journal.new.play ds) polled
    rw [takes]
    exact {
      mailbox := by rw [play_concat, step]
      accepted := by rw [play_concat, step, requestsOf_work, ← h.accepted]
      owned
      replies := h.replies
      kernel := h.kernel
      stage := by
        rw [play_concat, step]
        exact ⟨congrArg (· ++ [r]) stage.1, stage.2⟩ }

theorem Follows.handle (h : Follows E k moves l ds) {r : Request}
    (taken : l.service.work = .taken r) :
    Follows E k (moves ++ [.work]) (l.move E .work) ds := by
  have stage := h.stage
  rw [taken] at stage
  -- The mailbox is left alone; only the ledger and the kernel move on.
  obtain ⟨reply, kernel, answered⟩ : ∃ b k', l.service.kernel.handle E r = (b, k') := ⟨_, _, rfl⟩
  have handles : l.move E .work =
      { service := { l.service with kernel, work := .handled reply }
        handled := l.handled ++ [(r, reply)] } := by
    simp [Ledger.move, Service.move, Service.step, taken, answered, Work.handling]
  rw [handles]
  exact {
    mailbox := h.mailbox
    accepted := by rw [requestsOf_work, h.accepted]
    owned := fun d member => (h.owned d member).append _
    replies := by
      simp only [List.map_append, List.map_cons, List.map_nil]
      rw [Kernel.replies_concat, h.kernel, h.replies, answered]
    kernel := by
      simp only [List.map_append, List.map_cons, List.map_nil]
      rw [Kernel.after_concat, h.kernel, answered]
    stage := by
      simp only [Stage, List.map_append, List.map_cons, List.map_nil]
      exact ⟨stage.1, by rw [stage.2]⟩ }

theorem Follows.outstanding (h : Follows E k moves l ds) {b : Reply}
    (handled : l.service.work = .handled b) :
    (Journal.new.play ds).mailbox.pending = some (Journal.new.play ds).replied.length := by
  have stage := h.stage
  rw [handled] at stage
  have taken := congrArg List.length stage.1
  have replied := congrArg List.length stage.2
  simp only [List.length_map, List.length_append, List.length_singleton] at taken replied
  rw [(Journal.sound_play ds).pending, h.running]
  simp only [Bool.false_eq_true, if_false]
  rw [if_pos (by omega)]

theorem Follows.deliver (h : Follows E k moves l ds) {b : Reply}
    (handled : l.service.work = .handled b) :
    Follows E k (moves ++ [.work]) (l.move E .work) (ds ++ [.reply b]) := by
  have stage := h.stage
  rw [handled] at stage
  -- The slot still holds the ticket of the request that the worker has handled.
  have step := Journal.perform_reply (Journal.new.play ds) b (h.outstanding handled)
  have delivers : l.move E .work =
      { l with service := { l.service with
          mailbox := ((Journal.new.play ds).mailbox.reply b).2, work := .idle } } := by
    simp [Ledger.move, Service.move, Service.step, handled, h.mailbox, Work.handling]
  rw [delivers]
  exact {
    mailbox := by rw [play_concat, Journal.mailbox_perform_reply]
    accepted := by rw [play_concat, step, requestsOf_work, ← h.accepted]
    owned := owned_append h.owned (by trivial)
    replies := h.replies
    kernel := h.kernel
    stage := by
      rw [play_concat, step]
      exact ⟨stage.1, stage.2⟩ }

theorem Follows.client (h : Follows E k moves l ds) {m : Move} {d : Deed Request Reply}
    (f : Mailbox Request Reply → Mailbox Request Reply)
    (moved : l.move E m = { l with service := { l.service with mailbox := f l.service.mailbox } })
    (done : Journal.perform (Journal.new.play ds) d =
      { Journal.new.play ds with post := { (Journal.new.play ds).post with
          mailbox := f (Journal.new.play ds).mailbox } })
    (silent : requestsOf (moves ++ [m]) = requestsOf moves) (own : Owned (moves ++ [m]) d) :
    Follows E k (moves ++ [m]) (l.move E m) (ds ++ [d]) := by
  rw [moved]
  exact {
    mailbox := by rw [play_concat, done, ← h.mailbox]
    accepted := by rw [play_concat, done, silent, ← h.accepted]
    owned := owned_append h.owned own
    replies := h.replies
    kernel := h.kernel
    stage := by rw [play_concat, done]; exact h.stage }

theorem Follows.fetch (h : Follows E k moves l ds) (t : Nat) :
    Follows E k (moves ++ [.fetch t]) (l.move E (.fetch t)) (ds ++ [.receive t]) :=
  h.client (fun mailbox => (mailbox.receive t).2) (by simp [Ledger.move, Service.move])
    (Journal.perform_receive _ t)
    (by simp [requestsOf, Move.request?]) (List.mem_append_right _ (List.mem_singleton_self _))

theorem Follows.drop (h : Follows E k moves l ds) (t : Nat) :
    Follows E k (moves ++ [.drop t]) (l.move E (.drop t)) (ds ++ [.drop t]) :=
  h.client (·.drop t) (by simp [Ledger.move, Service.move]) (Journal.perform_drop _ t)
    (by simp [requestsOf, Move.request?]) (List.mem_append_right _ (List.mem_singleton_self _))

theorem Follows.move (h : Follows E k moves l ds) (m : Move) :
    Follows E k (moves ++ [m]) (l.move E m) (ds ++ deeds l.service m) := by
  cases m with
  | send r => exact h.send r
  | work =>
    cases working : l.service.work with
    | idle => simpa [deeds, working] using h.poll working
    | taken r => simpa [deeds, working] using h.handle working
    | handled b => simpa [deeds, working] using h.deliver working
  | fetch t => exact h.fetch t
  | drop t => exact h.drop t

/-- Whatever is done to a new service, there is a journal of its mailbox that it follows. -/
theorem exists_follows (E : Engine ε) (k : Kernel ε) (moves : List Move) :
    ∃ ds, Follows E k moves ((new k).play E moves) ds := by
  induction moves using List.reverseRecOn with
  | nil => exact ⟨[], follows_new E k⟩
  | append_singleton moves m ih =>
    obtain ⟨ds, follows⟩ := ih
    rw [play_append]
    exact ⟨_, follows.move m⟩

end Ledger

end Service

end NotebookKernel
