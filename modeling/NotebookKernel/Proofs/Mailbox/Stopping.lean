import NotebookKernel.Proofs.Mailbox.Delivery

/-! # Stopping a mailbox

A shutdown may come at any time, with requests in the queue, taken out, or just answered.  It
tells every client that still waits that there will be no reply, and from then on the mailbox
holds nothing, accepts nothing and gives nothing away.

`Stopped` is the invariant behind this.  A shutdown establishes it whatever went before, and
every operation keeps it; `Journal.Stopped` says the same of a journal, into which nothing is
written any more.
-/

namespace NotebookKernel.Mailbox

variable {α β : Type}

/-! ## Receipts that are settled -/

theorem close_ne_waiting (r : Receipt β) : Receipt.close r ≠ .waiting := by
  cases r <;> simp [Receipt.close]

theorem map_close_eq {receipts : List (Receipt β)} (settled : .waiting ∉ receipts) :
    receipts.map Receipt.close = receipts := by
  conv_rhs => rw [← List.map_id receipts]
  apply List.map_congr_left
  intro r member
  apply close_eq_of_ne_waiting
  intro waits
  exact settled (waits ▸ member)

theorem waiting_not_mem_set {receipts : List (Receipt β)} {r : Receipt β} (settled : .waiting ∉ receipts)
    (other : r ≠ .waiting) (t : Nat) : .waiting ∉ receipts.set t r := by
  intro member
  obtain old | new := List.mem_or_eq_of_mem_set member
  · exact settled old
  · exact other new.symm

/-! ## Stopped mailboxes -/

/-- The mailbox is stopped and empty, and nobody waits for a reply. -/
structure Stopped (m : Mailbox α β) : Prop where
  stopped : m.stopped = true
  queue : m.queue = []
  pending : m.pending = none
  settled : .waiting ∉ m.receipts

theorem stopped_shutdown (m : Mailbox α β) : m.shutdown.Stopped where
  stopped := rfl
  queue := rfl
  pending := rfl
  settled := by
    intro member
    obtain ⟨r, _, closed⟩ := List.mem_map.mp member
    exact close_ne_waiting r closed

namespace Stopped

variable {m : Mailbox α β}

theorem send_eq (h : m.Stopped) (r : α) : m.send r = (.error .sessionClosed, m) := by
  simp [Mailbox.send, h.stopped]

theorem tryPoll_eq (h : m.Stopped) : m.tryPoll = (none, m) := by
  simp [Mailbox.tryPoll, h.stopped]

theorem reply_eq (h : m.Stopped) (b : β) : m.reply b = (false, m) := by
  simp [Mailbox.reply, h.pending]

theorem shutdown_eq (h : m.Stopped) : m.shutdown = m := by
  obtain ⟨queue, pending, stopped, receipts⟩ := m
  obtain ⟨rfl, rfl, rfl, settled⟩ := h
  simp only [Mailbox.shutdown, map_close_eq settled]

theorem receive (h : m.Stopped) (t : Nat) : (m.receive t).2.Stopped := by
  obtain same | ⟨b, answered, fetched⟩ := receive_cases m t
  · rw [same]; exact h
  · rw [fetched]
    exact { h with settled := waiting_not_mem_set h.settled (by simp) t }

theorem drop (h : m.Stopped) (t : Nat) : (m.drop t).Stopped :=
  { h with settled := waiting_not_mem_set h.settled (by simp) t }

end Stopped

namespace Journal

/-! ## Every deed comes to nothing -/

/-- The mailbox is stopped, and whoever wants to sleep at it is kept awake. -/
structure Stopped (j : Journal α β) : Prop where
  mailbox : j.mailbox.Stopped
  awake : j.post.bell.sleepers = []
  permit : j.post.bell.permit = true

variable {j : Journal α β}

theorem stopped_shutdown (j : Journal α β) : (j.perform .shutdown).Stopped where
  mailbox := Mailbox.stopped_shutdown j.mailbox
  awake := rfl
  permit := rfl

theorem Stopped.ring_eq (h : j.Stopped) : j.post.bell.ring = j.post.bell := by
  have awake := h.awake
  have permit := h.permit
  cases bell : j.post.bell with
  | mk p sleepers woken =>
    rw [bell] at awake permit
    subst awake permit
    rfl

theorem Stopped.ringAll_eq (h : j.Stopped) : j.post.bell.ringAll = j.post.bell := by
  have awake := h.awake
  cases bell : j.post.bell with
  | mk p sleepers woken =>
    rw [bell] at awake
    subst awake
    simp [Bell.ringAll]

theorem Stopped.perform_send (h : j.Stopped) (r : α) :
    j.post.perform (.send r) = (.failed .sessionClosed, j.post) := by
  simp [Post.perform, Post.send, h.mailbox.send_eq]

theorem Stopped.perform_tryPoll (h : j.Stopped) :
    j.post.perform .tryPoll = (.request none, j.post) := by
  simp [Post.perform, h.mailbox.tryPoll_eq]

theorem Stopped.perform_reply (h : j.Stopped) (b : β) :
    j.post.perform (.reply b) = (.outstanding false, j.post) := by
  simp [Post.perform, Post.reply, h.mailbox.reply_eq, h.ring_eq]

theorem Stopped.perform_shutdown (h : j.Stopped) : j.perform .shutdown = j := by
  have post : j.post.shutdown = j.post := by
    rw [Post.shutdown, h.mailbox.shutdown_eq, h.ringAll_eq, h.ring_eq]
  have silent (t : Nat) : resolution j.mailbox.receipts[t]?
      (j.mailbox.receipts.map Receipt.close)[t]? = [] := by
    rw [map_close_eq h.mailbox.settled, resolution_self]
  rw [Journal.perform_shutdown, post]
  simp only [silent, List.append_nil]

/-- A poller does not even go to sleep. -/
theorem Stopped.pollRun (h : j.Stopped) (id : Nat) :
    j.post.pollRun id .looking = (.done none, j.post) := by
  simp [Post.pollRun, Post.pollStep, h.mailbox.tryPoll_eq, h.mailbox.stopped]

/-! ## Runs -/

theorem Stopped.perform (h : j.Stopped) (d : Deed α β) :
    (j.perform d).Stopped ∧ j.perform d = { j with post := (j.perform d).post } := by
  cases d with
  | send r => rw [perform_send_of_stopped j r h.mailbox.stopped]; exact ⟨h, rfl⟩
  | tryPoll => rw [perform_tryPoll_none j h.mailbox.tryPoll_eq]; exact ⟨h, rfl⟩
  | reply b => rw [perform_reply_of_free j b h.mailbox.pending, h.ring_eq]; exact ⟨h, rfl⟩
  | shutdown => rw [h.perform_shutdown]; exact ⟨h, rfl⟩
  | receive t => rw [perform_receive]; exact ⟨{ h with mailbox := h.mailbox.receive t }, rfl⟩
  | drop t => rw [perform_drop]; exact ⟨{ h with mailbox := h.mailbox.drop t }, rfl⟩

theorem Stopped.play (h : j.Stopped) (ds : List (Deed α β)) :
    (j.play ds).Stopped ∧ j.play ds = { j with post := (j.play ds).post } := by
  induction ds generalizing j with
  | nil => exact ⟨h, rfl⟩
  | cons d ds ih =>
    obtain ⟨still, silent⟩ := h.perform d
    obtain ⟨stopped, more⟩ := ih still
    refine ⟨stopped, ?_⟩
    rw [play_cons, more, silent]

/-! ## Whom a shutdown finds waiting -/

theorem Sound.waiting_of_untold (h : j.Sound) {t : Nat} (inside : t < j.accepted.length)
    (untold : j.told t = []) :
    j.mailbox.receipts[t]? = some .waiting ∨ j.mailbox.receipts[t]? = some .dropped := by
  obtain ⟨r, found⟩ := h.exists_receipt inside
  have agrees := h.agrees t r found
  rw [untold] at agrees
  generalize verdict j.replied j.mailbox.stopped t = v at agrees
  cases agrees with
  | waiting => exact .inl found
  | goneEarly => exact .inr found

theorem told_shutdown_of_waiting {t : Nat} (waits : j.mailbox.receipts[t]? = some .waiting) :
    (j.perform .shutdown).told t = j.told t ++ [none] := by
  simp [Journal.perform_shutdown, waits, Receipt.close, resolution]

theorem told_shutdown_of_settled {t : Nat} (settled : j.mailbox.receipts[t]? ≠ some .waiting) :
    (j.perform .shutdown).told t = j.told t := by
  rw [Journal.perform_shutdown]
  cases found : j.mailbox.receipts[t]? with
  | none => simp [found, resolution]
  | some r =>
    have same : Receipt.close r = r := by
      apply close_eq_of_ne_waiting
      intro waits
      exact settled (found.trans (congrArg some waits))
    simp [found, same]

/-! ## The shutdown -/

/-- A shutdown between any two deeds of any clients and pollers.  From then on the mailbox is
stopped and holds nothing.  Whoever has left a request and has not been told anything is told at
once that there will be no reply, and finds it so ever after, unless it has gone away; the others
are told nothing new.  Nobody is left waiting, and nothing is ever told, accepted or taken out
again: further requests are refused, no poller finds one, no reply is wanted, and another shutdown
changes nothing. -/
theorem shutdown_closes_everything (before later : List (Deed α β)) :
    let j := (new : Journal α β).play before
    let s := j.perform .shutdown
    let l := s.play later
    (l.mailbox.stopped = true ∧ l.mailbox.queue = [] ∧ l.mailbox.pending = none) ∧
    (∀ t, t < j.accepted.length → j.told t = [] →
      (s.told t = [none] ∧ (.drop t ∉ later → (l.mailbox.receive t).1 = .closed)) ∨
      (s.told t = [] ∧ j.mailbox.receipts[t]? = some .dropped ∧ .drop t ∈ before)) ∧
    (∀ t, j.told t ≠ [] → s.told t = j.told t) ∧
    .waiting ∉ l.mailbox.receipts ∧
    (l.told = s.told ∧ l.accepted = j.accepted ∧ l.taken = j.taken ∧ l.replied = j.replied) ∧
    (∀ r, l.post.perform (.send r) = (.failed .sessionClosed, l.post)) ∧
    l.post.perform .tryPoll = (.request none, l.post) ∧
    (∀ id, l.post.pollRun id .looking = (.done none, l.post)) ∧
    (∀ b, l.post.perform (.reply b) = (.outstanding false, l.post)) ∧
    l.perform .shutdown = l := by
  intro j s l
  have sound : j.Sound := sound_play before
  have closes : s.Stopped := stopped_shutdown j
  obtain ⟨stopped, silent⟩ : l.Stopped ∧ l = { s with post := l.post } := closes.play later
  refine ⟨⟨stopped.mailbox.stopped, stopped.mailbox.queue, stopped.mailbox.pending⟩, ?_, ?_,
    stopped.mailbox.settled, ?_,
    stopped.perform_send, stopped.perform_tryPoll, stopped.pollRun, stopped.perform_reply,
    stopped.perform_shutdown⟩
  · intro t inside untold
    obtain waits | gone := sound.waiting_of_untold inside untold
    · left
      refine ⟨by rw [told_shutdown_of_waiting waits, untold]; rfl, fun stays => ?_⟩
      have closed : s.mailbox.receipts[t]? = some .closed := by
        change (j.mailbox.receipts.map Receipt.close)[t]? = some .closed
        rw [List.getElem?_map, waits]
        rfl
      have still : l.mailbox.receipts[t]? = some .closed := closed_play closed stays
      simp only [Mailbox.receive, still]
    · right
      refine ⟨?_, gone, drop_mem_of_dropped before gone⟩
      rw [told_shutdown_of_settled (by rw [gone]; simp), untold]
  · exact fun t told => told_shutdown_of_settled (sound.settled_of_told told)
  · have noted : s = _ := Journal.perform_shutdown j
    rw [silent]
    exact ⟨rfl, by rw [noted], by rw [noted], by rw [noted]⟩

/-- The request that is out and the one in the queue come to the same end. -/
example :
    let j := (new : Journal Nat Nat).play
      [.send 7, .send 8, .tryPoll, .shutdown, .reply 70, .tryPoll, .send 9]
    j.told 0 = [none] ∧ j.told 1 = [none] ∧ j.told 2 = [] ∧ j.replied = [] := by
  decide

end Journal

end NotebookKernel.Mailbox
