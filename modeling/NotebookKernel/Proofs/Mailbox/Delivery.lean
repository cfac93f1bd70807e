import NotebookKernel.Proofs.Mailbox.Journal

/-! # Delivery

What clients and pollers may rely on, whatever else is done to a mailbox:

* `Sound.taken_initial`, `Sound.accepted_eq`: requests come out in the order in which they were
  accepted, and the queue holds the rest.
* `Sound.level_of_poll`: a request comes out only when the slot is free and all earlier ones have
  their replies.
* `Sound.outstanding_iff`: a reply is accepted exactly when a request is outstanding.
* `Sound.told_of_replied`, `found_of_replied`: the reply to the request that came out as number `i`
  goes to the client that left it, which finds it unless it has fetched it before or gone away.
* `Sound.replied_of_told`, `Sound.replied_of_received`: nobody else is told of it or finds it, and
  nobody is before the request has come out.
* `Sound.told_cases`, `found_once`: whatever is done to a receipt by others than its client is done
  once, and a reply is found once.
-/

namespace NotebookKernel.Mailbox.Journal

variable {α β : Type} {j : Journal α β}

/-! ## Order -/

theorem Sound.taken_initial (h : j.Sound) : j.taken <+: j.accepted.map Prod.snd := by
  rw [h.taken]
  exact (List.take_prefix _ _).map _

theorem Sound.accepted_eq (h : j.Sound) (running : j.mailbox.stopped = false) :
    j.accepted.map Prod.snd = j.taken ++ j.mailbox.queue.map Prod.snd := by
  have queue : j.mailbox.queue = j.accepted.drop j.taken.length := by
    rw [h.queue, running]; rfl
  calc j.accepted.map Prod.snd
      = (j.accepted.take j.taken.length ++ j.accepted.drop j.taken.length).map Prod.snd := by
        rw [List.take_append_drop]
    _ = j.taken ++ j.mailbox.queue.map Prod.snd := by
        rw [List.map_append, ← h.taken, queue]

theorem Sound.accepted_of_taken (h : j.Sound) {i : Nat} (out : i < j.taken.length) :
    ∃ r, j.taken[i]? = some r ∧ j.accepted[i]? = some (i, r) := by
  have inside : i < j.accepted.length := Nat.lt_of_lt_of_le out h.taken_le_accepted
  obtain ⟨⟨t, r⟩, place⟩ : ∃ a, j.accepted[i]? = some a := ⟨_, List.getElem?_eq_getElem inside⟩
  have ticket := h.ticket_eq place
  subst ticket
  refine ⟨r, ?_, place⟩
  rw [h.taken, List.getElem?_map, List.getElem?_take_of_lt out, place]
  rfl

/-! ## One at a time -/

theorem Sound.level_of_poll (h : j.Sound) {r : α}
    (polled : (j.post.perform .tryPoll).1 = .request (some r)) :
    j.mailbox.pending = none ∧ j.replied.length = j.taken.length := by
  simp only [Post.perform, Outcome.request.injEq] at polled
  obtain nothing | ⟨t, r', queue, running, free, _, _⟩ := tryPoll_cases j.mailbox
  · rw [nothing] at polled; cases polled
  · exact ⟨free, h.replied_eq_of_free running free⟩

theorem Sound.outstanding_iff (h : j.Sound) (b : β) :
    (j.post.perform (.reply b)).1 = .outstanding true ↔
      j.mailbox.stopped = false ∧ j.replied.length < j.taken.length := by
  have slot := h.pending
  cases outstanding : j.mailbox.pending with
  | none =>
    simp only [Post.perform, Post.reply, Mailbox.reply, outstanding, Outcome.outstanding.injEq,
      Bool.false_eq_true, false_iff, not_and]
    intro running short
    rw [outstanding, running] at slot
    simp [short] at slot
  | some t =>
    obtain ⟨running, _, short⟩ := h.pending_some outstanding
    simp [Post.perform, Post.reply, Mailbox.reply, outstanding, running, short]

/-! ## To whom -/

theorem Sound.exists_receipt (h : j.Sound) {t : Nat} (inside : t < j.accepted.length) :
    ∃ r, j.mailbox.receipts[t]? = some r :=
  ⟨_, List.getElem?_eq_getElem (h.receipts ▸ inside)⟩

theorem Sound.agrees_of_replied (h : j.Sound) {i : Nat} {b : β} (replied : j.replied[i]? = some b) :
    ∃ r, j.mailbox.receipts[i]? = some r ∧ Receipt.Agrees r (some (some b)) (j.told i) := by
  have answered := (List.getElem?_eq_some_iff.mp replied).1
  obtain ⟨r, found⟩ := h.exists_receipt (t := i)
    (Nat.lt_of_lt_of_le answered (Nat.le_trans h.replied_le h.taken_le_accepted))
  have agrees := h.agrees i r found
  rw [verdict_of_replied _ replied] at agrees
  exact ⟨r, found, agrees⟩

theorem Sound.told_of_replied (h : j.Sound) {i : Nat} {b : β} (replied : j.replied[i]? = some b) :
    j.told i = [some b] ∨ (j.told i = [] ∧ j.mailbox.receipts[i]? = some .dropped) := by
  obtain ⟨r, found, agrees⟩ := h.agrees_of_replied replied
  rw [found]
  generalize j.told i = told at agrees ⊢
  cases agrees with
  | answered b => exact .inl rfl
  | closed o => exact .inl rfl
  | goneEarly => exact .inr ⟨rfl, rfl⟩
  | goneLate o => exact .inl rfl

theorem answered_of_received {t : Nat} {b : β} (found : (j.mailbox.receive t).1 = .value b) :
    j.mailbox.receipts[t]? = some (.answered b) := by
  unfold Mailbox.receive at found
  split at found <;> cases found
  assumption

theorem Sound.replied_of_received (h : j.Sound) {t : Nat} {b : β}
    (found : (j.mailbox.receive t).1 = .value b) : j.replied[t]? = some b := by
  have agrees := h.agrees t _ (answered_of_received found)
  generalize j.told t = told at agrees
  unfold verdict at agrees
  split at agrees
  next b' replied => cases agrees; exact replied
  next => split at agrees <;> cases agrees

theorem Sound.told_cases (h : j.Sound) (t : Nat) :
    j.told t = [] ∨ ∃ o, verdict j.replied j.mailbox.stopped t = some o ∧ j.told t = [o] := by
  by_cases inside : t < j.accepted.length
  · obtain ⟨r, found⟩ := h.exists_receipt inside
    have agrees := h.agrees t r found
    generalize j.told t = told, verdict j.replied j.mailbox.stopped t = v at agrees ⊢
    cases agrees with
    | waiting => exact .inl rfl
    | answered b => exact .inr ⟨_, rfl, rfl⟩
    | closed o => exact .inr ⟨_, rfl, rfl⟩
    | goneEarly => exact .inl rfl
    | goneLate o => exact .inr ⟨_, rfl, rfl⟩
  · exact .inl (h.untold t (by omega))

theorem Sound.replied_of_told (h : j.Sound) {t : Nat} {b : β} (told : some b ∈ j.told t) :
    j.replied[t]? = some b := by
  obtain nothing | ⟨o, now, once⟩ := h.told_cases t
  · rw [nothing] at told; cases told
  · rw [once, List.mem_singleton] at told
    subst told
    unfold verdict at now
    split at now
    next b' replied => rw [replied]; simpa using now
    next => split at now <;> simp at now

theorem Sound.settled_of_told (h : j.Sound) {t : Nat} (told : j.told t ≠ []) :
    j.mailbox.receipts[t]? ≠ some .waiting := by
  intro waits
  have agrees := h.agrees t .waiting waits
  generalize verdict j.replied j.mailbox.stopped t = v, j.told t = said at agrees told
  cases agrees with
  | waiting => exact told rfl

/-- A client that was told a reply and finds none has fetched it. -/
theorem receive_mem_of_told (ds : List (Deed α β)) {t : Nat} {b : β}
    (told : some b ∈ ((new : Journal α β).play ds).told t)
    (closed : ((new : Journal α β).play ds).mailbox.receipts[t]? = some .closed) :
    .receive t ∈ ds := by
  induction ds using List.reverseRecOn with
  | nil => cases told
  | append_singleton ds d ih =>
    rw [play_append] at told closed
    -- The reply was told before, as no deed that closes a receipt tells one.
    obtain before | now := List.mem_append.mp told
    · obtain old | h | ⟨b', h⟩ | ⟨_, rfl | rfl⟩ | ⟨h, _⟩ := receipt_cases _ d closed
      · exact List.mem_append_left _ (ih before old)
      · cases h
      · cases h
      · -- A shutdown closes no receipt of a client that was told something.
        have settled := (sound_play ds).settled_of_told (List.ne_nil_of_mem before)
        obtain ⟨r, old, close⟩ := Option.map_eq_some_iff.mp (List.getElem?_map .. ▸ closed)
        have same : Receipt.close r = r := by
          apply close_eq_of_ne_waiting
          rintro rfl
          exact settled old
        rw [same] at close
        subst close
        exact List.mem_append_left _ (ih before old)
      · exact List.mem_append_right _ (List.mem_singleton_self _)
      · cases h
    · have told : some b ∈ d.tells t ((new : Journal α β).play ds).mailbox.receipts[t]? (some .closed) :=
        closed ▸ now
      unfold Deed.tells at told
      split at told
      · cases told
      · exact absurd told (resolution_closed b _)

/-- A client finds its reply, unless it has fetched it before or gone away. -/
theorem found_of_replied (ds : List (Deed α β)) {i : Nat} {b : β}
    (replied : ((new : Journal α β).play ds).replied[i]? = some b) (unfetched : .receive i ∉ ds)
    (stays : .drop i ∉ ds) : (((new : Journal α β).play ds).mailbox.receive i).1 = .value b := by
  obtain ⟨r, found, agrees⟩ := (sound_play ds).agrees_of_replied replied
  generalize told : ((new : Journal α β).play ds).told i = said at agrees
  -- Only the client itself can have closed or dropped a receipt that was answered.
  cases agrees with
  | answered b => simp only [Mailbox.receive, found]
  | closed o =>
    exact absurd (receive_mem_of_told ds (told ▸ List.mem_singleton_self _) found) unfetched
  | goneEarly | goneLate o => exact absurd (drop_mem_of_dropped ds found) stays

/-- Whoever has found a reply finds none again. -/
theorem found_once {t : Nat} {b : β} (found : (j.mailbox.receive t).1 = .value b)
    (more : List (Deed α β)) (b' : β) :
    (((j.perform (.receive t)).play more).mailbox.receive t).1 ≠ .value b' := by
  have answered := answered_of_received found
  have closed : (j.perform (.receive t)).mailbox.receipts[t]? = some .closed := by
    rw [perform_receive]
    simp only [Mailbox.receive, answered]
    exact List.getElem?_set_self (List.getElem?_eq_some_iff.mp answered).1
  exact unfound_play (.inl rfl) closed more b'

/-! ## The law -/

theorem stopped_eq_false_iff (ds : List (Deed α β)) :
    ((new : Journal α β).play ds).mailbox.stopped = false ↔ .shutdown ∉ ds := by
  rw [← Bool.not_eq_true, play_stopped]
  simp [new, mailbox, Post.new, Mailbox.new]

/-- What a mailbox guarantees after any deeds, by any number of clients and pollers: the order of
the requests, one request at a time, and for reply number `i` that it goes to the client of request
number `i` and to no other, that this client finds it, that nobody finds another reply or a second
one, and that nobody is told anything twice. -/
theorem delivery_law (ds : List (Deed α β)) :
    let j := (new : Journal α β).play ds
    (j.taken <+: j.accepted.map Prod.snd ∧
      (.shutdown ∉ ds → j.accepted.map Prod.snd = j.taken ++ j.mailbox.queue.map Prod.snd)) ∧
    (∀ r, (j.post.perform .tryPoll).1 = .request (some r) →
      j.mailbox.pending = none ∧ j.replied.length = j.taken.length) ∧
    j.taken.length ≤ j.replied.length + 1 ∧
    (∀ b, (j.post.perform (.reply b)).1 = .outstanding true ↔
      .shutdown ∉ ds ∧ j.replied.length < j.taken.length) ∧
    (∀ i b, j.replied[i]? = some b →
      ∃ r, j.taken[i]? = some r ∧ j.accepted[i]? = some (i, r) ∧
        (j.told i = [some b] ∨
          (j.told i = [] ∧ j.mailbox.receipts[i]? = some .dropped ∧ .drop i ∈ ds))) ∧
    (∀ i b, j.replied[i]? = some b → .receive i ∉ ds → .drop i ∉ ds →
      (j.mailbox.receive i).1 = .value b) ∧
    (∀ t b, (j.mailbox.receive t).1 = .value b → j.replied[t]? = some b ∧
      ∀ more b', (((j.perform (.receive t)).play more).mailbox.receive t).1 ≠ .value b') ∧
    (∀ t b, some b ∈ j.told t → j.replied[t]? = some b ∧ t < j.taken.length) ∧
    (∀ t, (j.told t).length ≤ 1) := by
  intro j
  have h : j.Sound := sound_play ds
  have running := stopped_eq_false_iff ds
  refine ⟨⟨h.taken_initial, fun never => h.accepted_eq (running.mpr never)⟩,
    fun r polled => h.level_of_poll polled, h.taken_le, ?_, ?_, fun i b => found_of_replied ds,
    fun t b found => ⟨h.replied_of_received found, found_once found⟩, ?_, ?_⟩
  · intro b
    rw [h.outstanding_iff, running]
  · intro i b replied
    have answered := (List.getElem?_eq_some_iff.mp replied).1
    obtain ⟨r, out, place⟩ := h.accepted_of_taken (Nat.lt_of_lt_of_le answered h.replied_le)
    refine ⟨r, out, place, (h.told_of_replied replied).imp_right ?_⟩
    rintro ⟨untold, gone⟩
    exact ⟨untold, gone, drop_mem_of_dropped ds gone⟩
  · intro t b told
    have replied := h.replied_of_told told
    exact ⟨replied, Nat.lt_of_lt_of_le (List.getElem?_eq_some_iff.mp replied).1 h.replied_le⟩
  · intro t
    obtain nothing | ⟨o, _, once⟩ := h.told_cases t
    · rw [nothing]; exact Nat.zero_le 1
    · rw [once]; exact Nat.le_refl 1

/-- A client that goes away loses its reply, and the next client gets its own. -/
example :
    let j := (new : Journal Nat Nat).play
      [.send 7, .send 8, .tryPoll, .drop 0, .reply 70, .tryPoll, .reply 80]
    j.told 0 = [] ∧ j.told 1 = [some 80] := by
  decide

end NotebookKernel.Mailbox.Journal
