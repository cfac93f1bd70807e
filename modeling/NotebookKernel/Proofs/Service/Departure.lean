import NotebookKernel.Proofs.Service.Ledger

/-! # Clients that go away

A client that goes away early and one that goes away late leave the same service behind: in
between nobody looks at its receipt.  The lemmas say so for each operation on a mailbox and for
each move; `Ledger.play_drop` puts them together for whole runs.
-/

namespace NotebookKernel.Mailbox

variable {α β : Type} (m : Mailbox α β) (t : Nat)

/-! ## Operations on a mailbox -/

@[simp] theorem drop_drop : (m.drop t).drop t = m.drop t := by
  simp only [drop, List.set_set]

theorem send_drop (r : α) : ((m.drop t).send r).2.drop t = (m.send r).2.drop t := by
  cases running : m.stopped with
  | true => simp [send, drop, running]
  | false =>
    simp only [send, drop, running, Bool.false_eq_true, if_false, List.length_set]
    by_cases old : t < m.receipts.length
    · rw [List.set_append_left _ _ (by simpa using old), List.set_append_left _ _ old, List.set_set]
    · have absent : m.receipts.set t Receipt.dropped = m.receipts :=
        List.set_eq_of_length_le (by omega)
      rw [absent]

theorem tryPoll_drop : (m.drop t).tryPoll = (m.tryPoll.1, m.tryPoll.2.drop t) := by
  obtain ⟨queue, pending, stopped, receipts⟩ := m
  cases stopped <;> cases pending <;> cases queue <;> rfl

theorem reply_drop (b : β) : ((m.drop t).reply b).2.drop t = (m.reply b).2.drop t := by
  cases outstanding : m.pending with
  | none => simp [reply, outstanding, drop]
  | some u =>
    simp only [reply, drop, outstanding, Mailbox.mk.injEq, true_and]
    apply List.ext_getElem?
    intro n
    by_cases here : t = n
    · simp [List.getElem?_set, here]
    · simp [List.getElem?_modify, here]

theorem receive_drop (u : Nat) : ((m.drop t).receive u).2.drop t = (m.receive u).2.drop t := by
  -- Whatever a client does to its own receipt is wiped out when it goes away.
  by_cases own : u = t
  · subst own
    have gone : ((m.drop u).receive u).2 = m.drop u := by
      simp only [receive, drop, List.getElem?_set_self']
      cases m.receipts[u]? <;> rfl
    rw [gone, drop_drop]
    obtain same | ⟨b, answered, fetched⟩ := receive_cases m u
    · rw [same]
    · rw [fetched]
      simp only [drop, List.set_set]
  · simp only [receive, drop, List.getElem?_set_ne (Ne.symm own)]
    cases m.receipts[u]? with
    | none => simp
    | some r =>
      cases r with
      | answered b => simp [List.set_comm _ _ own]
      | waiting | closed | dropped => simp

theorem receive_drop_of_ne {u : Nat} (other : u ≠ t) :
    ((m.drop t).receive u).1 = (m.receive u).1 := by
  simp only [receive, drop, List.getElem?_set_ne other.symm]
  cases m.receipts[u]? with
  | none => rfl
  | some r => cases r <;> rfl

end NotebookKernel.Mailbox

namespace NotebookKernel.Service

open NotebookKernel.Mailbox (Deed Journal)

variable {ε : Type} (E : Engine ε)

/-! ## Moves of a service -/

namespace Ledger

variable (l : Ledger ε) (t : Nat)

theorem move_drop_eq : l.move E (.drop t) =
    { l with service := { l.service with mailbox := l.service.mailbox.drop t } } := by
  simp [Ledger.move, Service.move]

theorem move_drop (m : Move) :
    ((l.move E (.drop t)).move E m).move E (.drop t) = (l.move E m).move E (.drop t) := by
  cases m with
  | send r => simp [Ledger.move, Service.move, Service.send, Mailbox.send_drop]
  | work =>
    cases working : l.service.work with
    | idle =>
      rcases polled : l.service.mailbox.tryPoll with ⟨_ | r, mailbox⟩ <;>
        simp [Ledger.move, Service.move, Service.step, working, polled, Mailbox.tryPoll_drop]
    | taken r => simp [Ledger.move, Service.move, Service.step, working]
    | handled b =>
      simp [Ledger.move, Service.move, Service.step, working, Mailbox.reply_drop]
  | fetch u => simp [Ledger.move, Service.move, Mailbox.receive_drop]
  | drop u =>
    simp only [move_drop_eq, Mailbox.drop]
    by_cases own : u = t
    · simp [own]
    · simp [List.set_comm _ _ own]

theorem play_drop (ms : List Move) :
    ((l.move E (.drop t)).play E ms).move E (.drop t) = (l.play E ms).move E (.drop t) := by
  induction ms generalizing l with
  | nil => simp [play, move_drop_eq]
  | cons m ms ih =>
    -- The receipt is wiped once more behind the first move, where `ih` takes over.
    simp only [play, List.foldl_cons] at ih ⊢
    rw [← ih, move_drop, ih]

/-- Going away changes nothing for the kernel, the worker and the other clients. -/
theorem play_drop_frame (ms : List Move) :
    let before := (l.move E (.drop t)).play E ms
    let after := l.play E ms
    before.handled = after.handled ∧ before.service.kernel = after.service.kernel ∧
      before.service.work = after.service.work ∧
      ∀ n, n ≠ t → (before.service.fetch n).1 = (after.service.fetch n).1 := by
  intro before after
  have same : before.move E (.drop t) = after.move E (.drop t) := play_drop E l t ms
  rw [move_drop_eq, move_drop_eq] at same
  injection same with services handled
  injection services with kernel mailbox work
  refine ⟨handled, kernel, work, fun n other => ?_⟩
  rw [fetch_fst, fetch_fst, ← Mailbox.receive_drop_of_ne _ t other, mailbox,
    Mailbox.receive_drop_of_ne _ t other]

end Ledger

end NotebookKernel.Service
