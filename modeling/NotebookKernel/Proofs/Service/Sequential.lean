import NotebookKernel.Proofs.Service.Departure

/-! # The service refines the sequential kernel

However clients and the worker take turns, every client gets the reply that it would have got
if the kernel had handled the accepted requests one after the other.  The first half is
safety: no reply is out of place at any time.  The second half is progress: the worker needs
three steps for a request, so that a drained service has answered everybody who is still
there.
-/

namespace NotebookKernel.Service

open NotebookKernel.Mailbox (Deed Journal)

variable {ε : Type} {E : Engine ε} {k : Kernel ε} {moves : List Move} {l : Ledger ε}
  {ds : List (Deed Request Reply)}

namespace Ledger

/-! ## No reply is out of place -/

theorem Follows.handled_initial (h : Follows E k moves l ds) :
    l.handled.map Prod.fst <+: requestsOf moves :=
  h.stage.handled_initial.trans (h.accepted ▸ (Journal.sound_play ds).taken_initial)

theorem Follows.handled_zip (h : Follows E k moves l ds) :
    l.handled <+: (requestsOf moves).zip (k.replies E (requestsOf moves)) := by
  obtain ⟨later, accepted⟩ := h.handled_initial
  have pairs : l.handled = (l.handled.map Prod.fst).zip (l.handled.map Prod.snd) :=
    List.zip_of_prod rfl rfl
  rw [← accepted, Kernel.replies_append, h.replies, List.zip_append (by simp), ← pairs]
  exact List.prefix_append _ _

theorem Follows.kernel_eq (h : Follows E k moves l ds) :
    l.service.kernel = k.after E ((requestsOf moves).take l.handled.length) := by
  have handled := List.prefix_iff_eq_take.mp h.handled_initial
  rw [List.length_map] at handled
  rw [← h.kernel, handled]

theorem Follows.replies_of_replied (h : Follows E k moves l ds) {n : Nat} {b : Reply}
    (replied : (Journal.new.play ds).replied[n]? = some b) :
    (k.replies E (requestsOf moves))[n]? = some b := by
  have handled : l.handled.map Prod.snd <+: k.replies E (requestsOf moves) :=
    h.replies ▸ Kernel.replies_mono E k h.handled_initial
  obtain ⟨inside, rfl⟩ := List.getElem?_eq_some_iff.mp replied
  exact List.prefix_iff_getElem?.mp (h.stage.replied_initial.trans handled) n inside

theorem Follows.replied_of_fetch (h : Follows E k moves l ds) {n : Nat} {b : Reply}
    (fetched : (l.service.fetch n).1 = .ok b) : (Journal.new.play ds).replied[n]? = some b := by
  refine (Journal.sound_play ds).replied_of_received (t := n) ?_
  rw [fetch_fst, h.mailbox] at fetched
  split at fetched
  next b' found => rw [found, Except.ok.inj fetched]
  next => cases fetched

theorem Follows.fetch_of_replied (h : Follows E k moves l ds) {n : Nat} {b : Reply}
    (replied : (Journal.new.play ds).replied[n]? = some b)
    (waits : .fetch n ∉ moves) (stays : .drop n ∉ moves) : (l.service.fetch n).1 = .ok b := by
  have found := Journal.found_of_replied ds replied
    (fun fetched => waits (h.owned _ fetched)) (fun gone => stays (h.owned _ gone))
  simp only [fetch_fst, h.mailbox, found]

theorem Follows.send_eq (h : Follows E k moves l ds) (r : Request) :
    (l.service.send r).1 = .ok (requestsOf moves).length := by
  have tickets := (Journal.sound_play ds).receipts
  rw [← h.accepted, List.length_map, ← tickets]
  simp [Service.send, Mailbox.send, h.mailbox, h.running]

end Ledger

/-! ## The worker catches up -/

/-- The steps that the worker needs until it has nothing to do. -/
def backlog (s : Service ε) : Nat :=
  3 * s.mailbox.queue.length +
    match s.work with
    | .idle => 0
    | .taken _ => 2
    | .handled _ => 1

theorem backlog_le (s : Service ε) : s.backlog ≤ 3 * (s.mailbox.queue.length + 1) := by
  unfold backlog
  split <;> omega

theorem backlog_eq_zero {s : Service ε} (h : s.backlog = 0) :
    s.mailbox.queue = [] ∧ s.work = .idle := by
  unfold backlog at h
  split at h
  next idle => exact ⟨List.eq_nil_of_length_eq_zero (by omega), idle⟩
  next => omega
  next => omega

namespace Ledger

/-- Let the worker make as many steps as `Service.drain` does. -/
def drain (E : Engine ε) (l : Ledger ε) : Ledger ε :=
  l.play E (List.replicate (3 * (l.service.mailbox.queue.length + 1)) .work)

theorem service_drain (E : Engine ε) (l : Ledger ε) : (l.drain E).service = l.service.drain E := by
  suffices steps : ∀ n (l : Ledger ε), (l.play E (List.replicate n .work)).service =
      l.service.steps E n from steps _ l
  intro n
  induction n with
  | zero => exact fun _ => rfl
  | succ n ih => exact fun l => ih (l.move E .work)

theorem Follows.free (h : Follows E k moves l ds) (idle : l.service.work = .idle) :
    l.service.mailbox.pending = none := by
  have stage := h.stage
  rw [idle] at stage
  have taken := congrArg List.length stage.1
  have replied := congrArg List.length stage.2
  simp only [List.length_map] at taken replied
  rw [h.mailbox, (Journal.sound_play ds).pending, h.running]
  simp only [Bool.false_eq_true, if_false]
  rw [if_neg (by omega)]

/-- While there is something to do, every step of the worker counts. -/
theorem Follows.backlog_work (h : Follows E k moves l ds) :
    (l.move E .work).service.backlog = l.service.backlog - 1 := by
  cases working : l.service.work with
  | idle =>
    have free : l.service.mailbox.pending = none := h.free working
    have running : l.service.mailbox.stopped = false := h.mailbox ▸ h.running
    cases queue : l.service.mailbox.queue with
    | nil =>
      simp [backlog, Ledger.move, Service.move, Service.step, working, Mailbox.tryPoll, free,
        running, queue]
    | cons entry queue =>
      simp [backlog, Ledger.move, Service.move, Service.step, working, Mailbox.tryPoll, free,
        running, queue]
      omega
  | taken r => simp [backlog, Ledger.move, Service.move, Service.step, working]
  | handled b =>
    have queue : (l.service.mailbox.reply b).2.queue = l.service.mailbox.queue := by
      unfold Mailbox.reply
      split <;> rfl
    simp [backlog, Ledger.move, Service.move, Service.step, working, queue]

theorem requestsOf_works (moves : List Move) (n : Nat) :
    requestsOf (moves ++ List.replicate n .work) = requestsOf moves := by
  simp [requestsOf, Move.request?]

theorem Follows.catchUp {n : Nat} (h : Follows E k moves l ds) (enough : l.service.backlog ≤ n) :
    ∃ ds', Follows E k (moves ++ List.replicate n .work) (l.play E (List.replicate n .work)) ds' ∧
      (l.play E (List.replicate n .work)).service.backlog = 0 := by
  induction n generalizing moves l ds with
  | zero => exact ⟨ds, by simpa [play] using h, Nat.le_zero.mp enough⟩
  | succ n ih =>
    have next := h.backlog_work
    obtain ⟨ds', follows, done⟩ := ih (h.move .work) (by omega)
    refine ⟨ds', ?_, done⟩
    simpa [List.replicate_succ, play] using follows

theorem Follows.all_replied (h : Follows E k moves l ds) (done : l.service.backlog = 0) :
    l.handled.map Prod.fst = requestsOf moves ∧
      (Journal.new.play ds).replied = k.replies E (requestsOf moves) := by
  obtain ⟨empty, idle⟩ := backlog_eq_zero done
  have stage := h.stage
  rw [idle] at stage
  -- The queue is empty, so that what came out is all that was accepted.
  have all := (Journal.sound_play ds).accepted_eq h.running
  rw [h.accepted, ← h.mailbox, empty, List.map_nil, List.append_nil] at all
  have handled : l.handled.map Prod.fst = requestsOf moves := stage.1.symm.trans all.symm
  exact ⟨handled, by rw [stage.2, ← h.replies, handled]⟩

end Ledger

/-! ## Refinement -/

/-- However clients and the worker take turns, without a shutdown.  Every request is accepted, and
its ticket is its number.  The kernel has handled the first requests, in order and once each, and
nothing else, and a client never finds anything but the reply to its own request.  When the worker
has caught up, no request has been left out, and every client that is still there and has not looked
yet finds its reply.  A client that goes away makes no difference to the kernel and the other
clients. -/
theorem refines_sequential (E : Engine ε) (k : Kernel ε) (moves : List Move) :
    let l := (Ledger.new k).play E moves
    let accepted := requestsOf moves
    let replies := k.replies E accepted
    (∀ r, (l.service.send r).1 = .ok accepted.length) ∧
    l.handled <+: accepted.zip replies ∧
    l.service.kernel = k.after E (accepted.take l.handled.length) ∧
    (∀ n b, (l.service.fetch n).1 = .ok b → replies[n]? = some b) ∧
    (l.drain E).service = l.service.drain E ∧
    (l.drain E).handled = accepted.zip replies ∧
    (l.drain E).service.kernel = k.after E accepted ∧
    (∀ n, n < accepted.length → .fetch n ∉ moves → .drop n ∉ moves →
      ∃ b, replies[n]? = some b ∧ ((l.drain E).service.fetch n).1 = .ok b) ∧
    (∀ t later,
      let gone := (l.move E (.drop t)).play E later
      let stayed := l.play E later
      gone.handled = stayed.handled ∧ gone.service.kernel = stayed.service.kernel ∧
        gone.service.work = stayed.service.work ∧
        ∀ n, n ≠ t → (gone.service.fetch n).1 = (stayed.service.fetch n).1) := by
  intro l accepted replies
  obtain ⟨ds, follows⟩ : ∃ ds, Ledger.Follows E k moves l ds := Ledger.exists_follows E k moves
  obtain ⟨ds', drained, done⟩ := follows.catchUp (backlog_le l.service)
  change Ledger.Follows E k _ (l.drain E) ds' at drained
  have quiet := Ledger.requestsOf_works moves (3 * (l.service.mailbox.queue.length + 1))
  obtain ⟨handled, replied⟩ := drained.all_replied done
  have kernel := drained.kernel
  have pairs := List.zip_of_prod handled (handled ▸ drained.replies).symm
  rw [handled, quiet] at kernel
  rw [quiet] at replied pairs
  refine ⟨follows.send_eq, follows.handled_zip, follows.kernel_eq, ?_, Ledger.service_drain E l,
    pairs, kernel.symm, ?_, Ledger.play_drop_frame E l⟩
  · exact fun n b fetched => follows.replies_of_replied (follows.replied_of_fetch fetched)
  · intro n inside waits stays
    have answered : n < replies.length := by simpa [replies] using inside
    have place : replies[n]? = some replies[n] := List.getElem?_eq_getElem answered
    refine ⟨_, place, drained.fetch_of_replied (replied ▸ place) ?_ ?_⟩
    · simpa using waits
    · simpa using stays

end NotebookKernel.Service
