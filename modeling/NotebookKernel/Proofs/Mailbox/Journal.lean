import Mathlib.Data.List.Induction
import NotebookKernel.Mailbox.Polling

/-! # The journal of a mailbox

A journal keeps what can be seen from outside while deeds are done to a mailbox in any order:
the requests that were accepted, the requests that came out, the replies that found somebody
waiting for them, and what every client was told.  A client is told of every change of its
receipt that it has not made itself.

`Journal.Sound` is the invariant that ties these to the queue, the pending slot and the
receipts.  The requests that came out are a prefix of the accepted ones and the queue holds
the rest; the pending slot holds the first ticket without a reply, if its request has come
out; and every receipt agrees with the verdict on its ticket.  `sound_play` says that it holds
whatever is done to a new mailbox.
-/

namespace NotebookKernel.Mailbox

variable {α β : Type}

/-! ## What is seen of a deed -/

/-- The request that a deed left in the mailbox, with its ticket. -/
def Deed.accepted : Deed α β → Outcome α β → List (Nat × α)
  | .send request, .ticket t => [(t, request)]
  | _, _ => []

/-- The request that a deed took out. -/
def Outcome.taken : Outcome α β → List α
  | .request (some r) => [r]
  | _ => []

/-- The reply that a deed gave to an outstanding request. -/
def Deed.replied : Deed α β → Outcome α β → List β
  | .reply b, .outstanding true => [b]
  | _, _ => []

/-- The client that looks after its own receipt. -/
def Deed.owner : Deed α β → Option Nat
  | .receive t | .drop t => some t
  | _ => none

open Classical in
/-- What a client is told by a change of its receipt: a reply, or `none` if there will be none.
Whatever becomes of a receipt is noted, except that somebody starts to wait. -/
noncomputable def resolution (before after : Option (Receipt β)) : List (Option β) :=
  if before = after then []
  else
    match before, after with
    | none, some .waiting => []
    | _, some (.answered b) => [some b]
    | _, _ => [none]

/-- What a deed tells a client; its own doings tell it nothing. -/
noncomputable def Deed.tells (d : Deed α β) (t : Nat) (before after : Option (Receipt β)) :
    List (Option β) :=
  if d.owner = some t then [] else resolution before after

@[simp] theorem resolution_self (r : Option (Receipt β)) : resolution r r = [] :=
  if_pos rfl

theorem resolution_arrival : resolution none (some (.waiting : Receipt β)) = [] :=
  if_neg nofun

theorem resolution_closed (b : β) (before : Option (Receipt β)) :
    some b ∉ resolution before (some .closed) := by
  unfold resolution
  split
  · exact List.not_mem_nil
  · simp

@[simp] theorem tells_self (d : Deed α β) (t : Nat) (r : Option (Receipt β)) :
    d.tells t r r = [] := by
  simp [Deed.tells]

/-- A client that does something to its own receipt tells nobody anything. -/
theorem tells_set {d : Deed α β} {t : Nat} (own : d.owner = some t) (receipts : List (Receipt β))
    (r : Receipt β) (u : Nat) : d.tells u receipts[u]? (receipts.set t r)[u]? = [] := by
  by_cases here : t = u
  · exact if_pos (own.trans (congrArg some here))
  · rw [List.getElem?_set_ne here, tells_self]

/-- What a ticket has come to: its reply, `some none` if there will be none, or nothing yet. -/
def verdict (replied : List β) (stopped : Bool) (t : Nat) : Option (Option β) :=
  match replied[t]? with
  | some b => some (some b)
  | none => if stopped then some none else none

/-! ## What polling and looking can come to -/

theorem tryPoll_cases (m : Mailbox α β) :
    m.tryPoll = (none, m) ∨
    ∃ t r queue, m.stopped = false ∧ m.pending = none ∧ m.queue = (t, r) :: queue ∧
      m.tryPoll = (some r, { m with queue, pending := some t }) := by
  unfold tryPoll
  split
  · exact .inl rfl
  next open_ =>
    simp only [Bool.or_eq_true, not_or, Bool.not_eq_true, Option.isSome_eq_false_iff,
      Option.isNone_iff_eq_none] at open_
    rcases filled : m.queue with _ | ⟨⟨t, r⟩, queue⟩
    · exact .inl rfl
    · exact .inr ⟨t, r, queue, open_.1, open_.2, rfl, rfl⟩

theorem receive_cases (m : Mailbox α β) (t : Nat) :
    (m.receive t).2 = m ∨
    ∃ b, m.receipts[t]? = some (.answered b) ∧
      m.receive t = (.value b, { m with receipts := m.receipts.set t .closed }) := by
  unfold receive
  rcases found : m.receipts[t]? with _ | _ | b | _ | _
  · exact .inl rfl
  · exact .inl rfl
  · exact .inr ⟨b, rfl, rfl⟩
  · exact .inl rfl
  · exact .inl rfl

theorem set_cases {receipts : List (Receipt β)} {t u : Nat} {r r' : Receipt β}
    (found : (receipts.set u r')[t]? = some r) :
    (u = t ∧ r' = r ∧ u < receipts.length) ∨ receipts[t]? = some r := by
  by_cases here : u = t
  · subst here
    have inside : u < receipts.length := by
      simpa using (List.getElem?_eq_some_iff.mp found).1
    rw [List.getElem?_set_self inside] at found
    exact .inl ⟨rfl, Option.some.inj found, inside⟩
  · rw [List.getElem?_set_ne here] at found
    exact .inr found

/-! ## Journals -/

/-- A mailbox with all that was seen of it. -/
structure Journal (α β : Type) where
  post : Post α β
  /-- The accepted requests with their tickets. -/
  accepted : List (Nat × α)
  /-- The requests that were taken out. -/
  taken : List α
  /-- The replies to outstanding requests. -/
  replied : List β
  /-- What the client with a ticket was told: a reply, or `none` if there will be none. -/
  told : Nat → List (Option β)

namespace Journal

def new : Journal α β :=
  { post := .new, accepted := [], taken := [], replied := [], told := fun _ => [] }

/-- Do one thing to the mailbox and note what is seen. -/
noncomputable def perform (j : Journal α β) (d : Deed α β) : Journal α β :=
  let (outcome, post) := j.post.perform d
  { post
    accepted := j.accepted ++ d.accepted outcome
    taken := j.taken ++ outcome.taken
    replied := j.replied ++ d.replied outcome
    told := fun t =>
      j.told t ++ d.tells t j.post.mailbox.receipts[t]? post.mailbox.receipts[t]? }

noncomputable def play (j : Journal α β) (ds : List (Deed α β)) : Journal α β :=
  ds.foldl perform j

@[simp] theorem play_nil (j : Journal α β) : j.play [] = j := rfl

@[simp] theorem play_cons (j : Journal α β) (d : Deed α β) (ds : List (Deed α β)) :
    j.play (d :: ds) = (j.perform d).play ds := rfl

theorem play_append (j : Journal α β) (ds es : List (Deed α β)) :
    j.play (ds ++ es) = (j.play ds).play es := by
  simp only [play, List.foldl_append]

abbrev mailbox (j : Journal α β) : Mailbox α β :=
  j.post.mailbox

end Journal

/-! ## The invariant -/

/-- A receipt agrees with the verdict on its ticket and with what its client was told.  A
    client that went away early was told nothing, one that went away late was told once. -/
inductive Receipt.Agrees : Receipt β → Option (Option β) → List (Option β) → Prop where
  | waiting : Agrees .waiting none []
  | answered (b : β) : Agrees (.answered b) (some (some b)) [some b]
  | closed (o : Option β) : Agrees .closed (some o) [o]
  | goneEarly (verdict : Option (Option β)) : Agrees .dropped verdict []
  | goneLate (o : Option β) : Agrees .dropped (some o) [o]

/-- What holds of a mailbox and its journal at any time. -/
structure Journal.Sound (j : Journal α β) : Prop where
  tickets : j.accepted.map Prod.fst = List.range j.accepted.length
  receipts : j.mailbox.receipts.length = j.accepted.length
  taken : j.taken = (j.accepted.take j.taken.length).map Prod.snd
  queue : j.mailbox.queue = if j.mailbox.stopped then [] else j.accepted.drop j.taken.length
  pending : j.mailbox.pending =
    if j.mailbox.stopped then none
    else if j.replied.length < j.taken.length then some j.replied.length else none
  replied_le : j.replied.length ≤ j.taken.length
  taken_le : j.taken.length ≤ j.replied.length + 1
  agrees : ∀ t r, j.mailbox.receipts[t]? = some r →
    Receipt.Agrees r (verdict j.replied j.mailbox.stopped t) (j.told t)
  untold : ∀ t, j.accepted.length ≤ t → j.told t = []

namespace Journal

theorem Sound.taken_le_accepted {j : Journal α β} (h : j.Sound) :
    j.taken.length ≤ j.accepted.length := by
  have := congrArg List.length h.taken
  simp only [List.length_map, List.length_take] at this
  omega

/-! ## What each deed does to a journal -/

theorem perform_send_of_stopped (j : Journal α β) (r : α) (stopped : j.mailbox.stopped = true) :
    j.perform (.send r) = j := by
  simp [perform, Post.perform, Post.send, Mailbox.send, stopped, Deed.accepted, Outcome.taken,
    Deed.replied]

theorem perform_send (j : Journal α β) (r : α) (running : j.mailbox.stopped = false) :
    j.perform (.send r) =
      { post :=
          { mailbox :=
              { j.mailbox with
                queue := j.mailbox.queue ++ [(j.mailbox.receipts.length, r)]
                receipts := j.mailbox.receipts ++ [.waiting] }
            bell := j.post.bell.ring }
        accepted := j.accepted ++ [(j.mailbox.receipts.length, r)]
        taken := j.taken
        replied := j.replied
        told := j.told } := by
  have silent (t : Nat) : resolution j.mailbox.receipts[t]?
      (j.mailbox.receipts ++ [Receipt.waiting])[t]? = [] := by
    by_cases old : t < j.mailbox.receipts.length
    · rw [List.getElem?_append_left old, resolution_self]
    · by_cases here : t = j.mailbox.receipts.length
      · rw [here, List.getElem?_concat_length, List.getElem?_eq_none (Nat.le_refl _),
          resolution_arrival]
      · rw [List.getElem?_eq_none (by omega), List.getElem?_eq_none (by simp; omega),
          resolution_self]
  simp [perform, Post.perform, Post.send, Mailbox.send, running, Deed.accepted, Outcome.taken,
    Deed.replied, Deed.tells, Deed.owner, silent]

theorem perform_tryPoll_none (j : Journal α β) (nothing : j.mailbox.tryPoll = (none, j.mailbox)) :
    j.perform .tryPoll = j := by
  simp only [perform, Post.perform, nothing, tells_self, List.append_nil]
  simp [Deed.accepted, Outcome.taken, Deed.replied]

theorem perform_tryPoll_some (j : Journal α β) {t : Nat} {r : α} {queue : List (Nat × α)}
    (polled : j.mailbox.tryPoll = (some r, { j.mailbox with queue, pending := some t })) :
    j.perform .tryPoll =
      { j with
        post := { j.post with mailbox := { j.mailbox with queue, pending := some t } }
        taken := j.taken ++ [r] } := by
  simp [perform, Post.perform, polled, Deed.accepted, Outcome.taken, Deed.replied]

theorem perform_reply_of_free (j : Journal α β) (b : β) (free : j.mailbox.pending = none) :
    j.perform (.reply b) = { j with post := { j.post with bell := j.post.bell.ring } } := by
  simp [perform, Post.perform, Post.reply, Mailbox.reply, free, Deed.accepted, Outcome.taken,
    Deed.replied]

theorem perform_reply (j : Journal α β) (b : β) {t : Nat} (outstanding : j.mailbox.pending = some t) :
    j.perform (.reply b) =
      { j with
        post :=
          { mailbox :=
              { j.mailbox with
                pending := none
                receipts := j.mailbox.receipts.modify t (Receipt.resolve b) }
            bell := j.post.bell.ring }
        replied := j.replied ++ [b]
        told := fun u => j.told u ++ resolution j.mailbox.receipts[u]?
          (j.mailbox.receipts.modify t (Receipt.resolve b))[u]? } := by
  simp [perform, Post.perform, Post.reply, Mailbox.reply, outstanding, Deed.accepted, Outcome.taken,
    Deed.replied, Deed.tells, Deed.owner]

theorem perform_shutdown (j : Journal α β) :
    j.perform .shutdown =
      { j with
        post := j.post.shutdown
        told := fun u => j.told u ++ resolution j.mailbox.receipts[u]?
          (j.mailbox.receipts.map Receipt.close)[u]? } := by
  simp [perform, Post.perform, Post.shutdown, Mailbox.shutdown, Deed.accepted, Outcome.taken,
    Deed.replied, Deed.tells, Deed.owner]

theorem perform_drop (j : Journal α β) (t : Nat) :
    j.perform (.drop t) =
      { j with
        post := { j.post with
          mailbox := { j.mailbox with receipts := j.mailbox.receipts.set t .dropped } } } := by
  have silent := tells_set (d := (.drop t : Deed α β)) rfl j.mailbox.receipts .dropped
  simp [perform, Post.perform, Mailbox.drop, Deed.accepted, Outcome.taken, Deed.replied, silent]

theorem perform_receive (j : Journal α β) (t : Nat) :
    j.perform (.receive t) =
      { j with post := { j.post with mailbox := (j.mailbox.receive t).2 } } := by
  have silent (u : Nat) : (.receive t : Deed α β).tells u j.mailbox.receipts[u]?
      (j.mailbox.receive t).2.receipts[u]? = [] := by
    obtain same | ⟨b, answered, fetched⟩ := receive_cases j.mailbox t
    · rw [same, tells_self]
    · rw [fetched]
      exact tells_set rfl j.mailbox.receipts .closed u
  simp [perform, Post.perform, Deed.accepted, Outcome.taken, Deed.replied, silent]

/-! ## The mailbox of a journal

The bell and the notes have no influence on the mailbox. -/

@[simp] theorem mailbox_perform_send (j : Journal α β) (r : α) :
    (j.perform (.send r)).mailbox = (j.mailbox.send r).2 := by
  cases running : j.mailbox.stopped with
  | true => simp [perform_send_of_stopped j r running, Mailbox.send, running]
  | false => simp [perform_send j r running, Mailbox.send, running]

@[simp] theorem mailbox_perform_reply (j : Journal α β) (b : β) :
    (j.perform (.reply b)).mailbox = (j.mailbox.reply b).2 := rfl

end Journal

/-! ## Receipts and verdicts -/

theorem close_eq_of_ne_waiting {r : Receipt β} (settled : r ≠ .waiting) : Receipt.close r = r := by
  cases r with
  | waiting => exact absurd rfl settled
  | answered | closed | dropped => rfl

theorem verdict_of_replied {replied : List β} {t : Nat} {b : β} (stopped : Bool)
    (here : replied[t]? = some b) : verdict replied stopped t = some (some b) := by
  simp only [verdict, here]

theorem verdict_of_unreplied {replied : List β} {t : Nat} (stopped : Bool)
    (open_ : replied.length ≤ t) :
    verdict replied stopped t = if stopped then some none else none := by
  simp only [verdict, List.getElem?_eq_none open_]

theorem verdict_append {replied : List β} {t : Nat} (b : β) (stopped : Bool)
    (other : replied.length ≠ t) : verdict (replied ++ [b]) stopped t = verdict replied stopped t := by
  obtain later | earlier := Nat.lt_or_gt_of_ne other
  · rw [verdict_of_unreplied _ (by simp; omega), verdict_of_unreplied _ (by omega)]
  · simp only [verdict, List.getElem?_append_left earlier]

theorem verdict_stop (replied : List β) (stopped : Bool) (t : Nat) :
    verdict replied true t = some ((verdict replied stopped t).getD none) := by
  unfold verdict
  cases replied[t]? with
  | some b => rfl
  | none => cases stopped <;> rfl

namespace Receipt.Agrees

variable {r : Receipt β} {o : Option β} {verdict : Option (Option β)} {told : List (Option β)}

theorem resolve (h : Agrees r none told) (b : β) :
    Agrees (Receipt.resolve b r) (some (some b))
      (told ++ resolution (some r) (some (Receipt.resolve b r))) := by
  cases h with
  | waiting => exact .answered b
  | goneEarly => exact .goneEarly _

theorem close (h : Agrees r none told) :
    Agrees (Receipt.close r) (some none)
      (told ++ resolution (some r) (some (Receipt.close r))) := by
  cases h with
  | waiting => exact .closed none
  | goneEarly => exact .goneEarly _

theorem close_eq (h : Agrees r (some o) told) : Receipt.close r = r := by
  cases h <;> rfl

theorem fetch {b : β} (h : Agrees (.answered b) verdict told) : Agrees .closed verdict told := by
  cases h with
  | answered b => exact .closed _

theorem leave (h : Agrees r verdict told) : Agrees .dropped verdict told := by
  cases h with
  | waiting => exact .goneEarly _
  | answered b => exact .goneLate _
  | closed o => exact .goneLate _
  | goneEarly => exact .goneEarly _
  | goneLate o => exact .goneLate _

end Receipt.Agrees

namespace Journal

/-! ## Every deed keeps the invariant -/

variable {j : Journal α β}

theorem Sound.replied_eq_of_free (h : j.Sound) (running : j.mailbox.stopped = false)
    (free : j.mailbox.pending = none) : j.replied.length = j.taken.length := by
  have slot := h.pending
  rw [free, running] at slot
  have := h.replied_le
  by_cases short : j.replied.length < j.taken.length
  · simp [short] at slot
  · omega

theorem Sound.pending_some (h : j.Sound) {t : Nat} (outstanding : j.mailbox.pending = some t) :
    j.mailbox.stopped = false ∧ t = j.replied.length ∧ j.replied.length < j.taken.length := by
  have slot := h.pending
  rw [outstanding] at slot
  cases running : j.mailbox.stopped with
  | true => simp [running] at slot
  | false =>
    by_cases short : j.replied.length < j.taken.length
    · simp only [running, short, if_true] at slot
      exact ⟨rfl, Option.some.inj slot, short⟩
    · simp [running, short] at slot

theorem Sound.send (h : j.Sound) (r : α) : (j.perform (.send r)).Sound := by
  cases running : j.mailbox.stopped with
  | true => rw [perform_send_of_stopped j r running]; exact h
  | false =>
    rw [perform_send j r running]
    have bound := h.taken_le_accepted
    have open_ : j.replied.length ≤ j.mailbox.receipts.length :=
      h.receipts ▸ Nat.le_trans h.replied_le bound
    -- Nobody can have been told anything under the new ticket.
    have last : j.told j.mailbox.receipts.length = [] := h.untold _ (Nat.le_of_eq h.receipts.symm)
    exact {
      tickets := by
        simp only [List.map_append, h.tickets, h.receipts, List.length_append,
          List.length_singleton, List.range_succ, List.map_cons, List.map_nil]
      receipts := by simp [h.receipts]
      taken := by
        rw [List.take_append_of_le_length bound]
        exact h.taken
      queue := by
        simp only [running, List.drop_append_of_le_length bound, h.queue]
        rfl
      pending := h.pending
      replied_le := h.replied_le
      taken_le := h.taken_le
      agrees := by
        intro t r' found
        by_cases old : t < j.mailbox.receipts.length
        · rw [List.getElem?_append_left old] at found
          exact h.agrees t r' found
        · have here : t = j.mailbox.receipts.length := by
            have := (List.getElem?_eq_some_iff.mp found).1
            simp only [List.length_append, List.length_singleton] at this
            omega
          subst here
          rw [List.getElem?_concat_length] at found
          cases found
          rw [verdict_of_unreplied _ open_, last]
          simp only [running]
          exact .waiting
      untold := by
        intro t out
        simp only [List.length_append] at out
        exact h.untold t (by omega) }

theorem Sound.ticket_eq (h : j.Sound) {i t : Nat} {r : α} (place : j.accepted[i]? = some (t, r)) :
    t = i := by
  have inside := (List.getElem?_eq_some_iff.mp place).1
  have ticket := congrArg (·[i]?) h.tickets
  simp only [List.getElem?_map, place, List.getElem?_range inside] at ticket
  exact Option.some.inj ticket

theorem Sound.tryPoll (h : j.Sound) : (j.perform .tryPoll).Sound := by
  obtain nothing | ⟨t, r, queue, running, free, first, polled⟩ := tryPoll_cases j.mailbox
  · rw [perform_tryPoll_none j nothing]; exact h
  · -- The slot is free, so that the next ticket is the number of the requests that came out.
    have level : j.replied.length = j.taken.length := h.replied_eq_of_free running free
    have rest : j.accepted.drop j.taken.length = (t, r) :: queue := by
      rw [← first, h.queue, running]; rfl
    have next : j.accepted[j.taken.length]? = some (t, r) := by
      rw [← List.head?_drop, rest, List.head?_cons]
    have ticket := h.ticket_eq next
    rw [perform_tryPoll_some j polled]
    exact {
      tickets := h.tickets
      receipts := h.receipts
      taken := by
        rw [List.length_append, List.length_singleton, List.take_add_one, next, List.map_append,
          ← h.taken]
        rfl
      queue := by
        rw [List.length_append, List.length_singleton, ← List.tail_drop, rest]
        simp [running]
      pending := by simp [running, level, ticket]
      replied_le := by simp only [List.length_append]; omega
      taken_le := by simp only [List.length_append, List.length_singleton]; omega
      agrees := h.agrees
      untold := h.untold }

theorem Sound.reply (h : j.Sound) (b : β) : (j.perform (.reply b)).Sound := by
  cases outstanding : j.mailbox.pending with
  | none =>
    rw [perform_reply_of_free j b outstanding]
    exact ⟨h.tickets, h.receipts, h.taken, h.queue, h.pending, h.replied_le, h.taken_le, h.agrees,
      h.untold⟩
  | some t =>
    obtain ⟨running, ticket, waiting⟩ := h.pending_some outstanding
    rw [perform_reply j b outstanding]
    subst ticket
    exact {
      tickets := h.tickets
      receipts := by simp [h.receipts]
      taken := h.taken
      queue := h.queue
      pending := by
        have := h.taken_le
        simp [running]
        omega
      replied_le := by simp only [List.length_append, List.length_singleton]; omega
      taken_le := by
        have := h.taken_le
        simp only [List.length_append, List.length_singleton]; omega
      agrees := by
        intro u r found
        obtain ⟨r₀, old, rfl⟩ := Option.map_eq_some_iff.mp (List.getElem?_modify .. ▸ found)
        have agrees := h.agrees u r₀ old
        -- The slot holds the first ticket without a reply, so that no other receipt is resolved.
        by_cases here : j.replied.length = u
        · subst here
          rw [verdict_of_unreplied _ (Nat.le_refl _), running] at agrees
          rw [verdict_of_replied _ (List.getElem?_concat_length ..)]
          simpa [old, List.getElem?_modify] using agrees.resolve b
        · rw [verdict_append b _ here]
          simpa [old, here, List.getElem?_modify] using agrees
      untold := by
        intro u out
        have none_ : j.mailbox.receipts[u]? = none := List.getElem?_eq_none (by rw [h.receipts]; exact out)
        simp [none_, List.getElem?_modify, h.untold u out] }

theorem Sound.shutdown (h : j.Sound) : (j.perform .shutdown).Sound := by
  rw [perform_shutdown j]
  exact {
    tickets := h.tickets
    receipts := by simp [Post.shutdown, Mailbox.shutdown, h.receipts]
    taken := h.taken
    queue := rfl
    pending := rfl
    replied_le := h.replied_le
    taken_le := h.taken_le
    agrees := by
      intro t r found
      obtain ⟨r₀, old, rfl⟩ := Option.map_eq_some_iff.mp (List.getElem?_map .. ▸ found)
      have agrees := h.agrees t r₀ old
      change Receipt.Agrees _ (verdict j.replied true t) _
      rw [verdict_stop]
      -- Stopping is the verdict on whoever has none, and nothing new for the others.
      cases now : verdict j.replied j.mailbox.stopped t with
      | none =>
        rw [now] at agrees
        simpa [old] using agrees.close
      | some o =>
        rw [now] at agrees
        simpa [old, agrees.close_eq] using agrees
    untold := by
      intro t out
      have absent : j.mailbox.receipts[t]? = none :=
        List.getElem?_eq_none (by rw [h.receipts]; exact out)
      simp [absent, h.untold t out] }

theorem Sound.set (h : j.Sound) (t : Nat) (r' : Receipt β)
    (own : ∀ r, j.mailbox.receipts[t]? = some r →
      Receipt.Agrees r' (verdict j.replied j.mailbox.stopped t) (j.told t)) :
    Sound { j with
      post := { j.post with
        mailbox := { j.mailbox with receipts := j.mailbox.receipts.set t r' } } } where
  tickets := h.tickets
  receipts := by simp [h.receipts]
  taken := h.taken
  queue := h.queue
  pending := h.pending
  replied_le := h.replied_le
  taken_le := h.taken_le
  agrees := by
    intro u r found
    obtain ⟨rfl, rfl, inside⟩ | old := set_cases found
    · exact own _ (List.getElem?_eq_getElem inside)
    · exact h.agrees u r old
  untold := h.untold

theorem Sound.receive (h : j.Sound) (t : Nat) : (j.perform (.receive t)).Sound := by
  rw [perform_receive j t]
  obtain same | ⟨b, answered, fetched⟩ := receive_cases j.mailbox t
  · rw [same]; exact h
  · rw [fetched]
    exact h.set t .closed fun r _ => (h.agrees t (.answered b) answered).fetch

theorem Sound.drop (h : j.Sound) (t : Nat) : (j.perform (.drop t)).Sound := by
  rw [perform_drop j t]
  exact h.set t .dropped fun r old => (h.agrees t r old).leave

theorem Sound.perform (h : j.Sound) (d : Deed α β) : (j.perform d).Sound := by
  cases d with
  | send r => exact h.send r
  | tryPoll => exact h.tryPoll
  | reply b => exact h.reply b
  | shutdown => exact h.shutdown
  | receive t => exact h.receive t
  | drop t => exact h.drop t

/-! ## Runs -/

theorem sound_new : (new : Journal α β).Sound where
  tickets := rfl
  receipts := rfl
  taken := rfl
  queue := rfl
  pending := rfl
  replied_le := Nat.le_refl _
  taken_le := Nat.zero_le _
  agrees := by
    intro t r found
    simp [new, mailbox, Post.new, Mailbox.new] at found
  untold := fun _ _ => rfl

theorem Sound.play (h : j.Sound) (ds : List (Deed α β)) : (j.play ds).Sound := by
  induction ds generalizing j with
  | nil => exact h
  | cons d ds ih => exact ih (h.perform d)

/-- Whatever is done to a new mailbox, its journal is sound. -/
theorem sound_play (ds : List (Deed α β)) : ((new : Journal α β).play ds).Sound :=
  sound_new.play ds

/-! ## What only some deeds can do -/

theorem perform_stopped (j : Journal α β) (d : Deed α β) :
    (j.perform d).mailbox.stopped = true ↔ j.mailbox.stopped = true ∨ d = .shutdown := by
  cases d with
  | send r =>
    cases running : j.mailbox.stopped with
    | true => simp [perform_send_of_stopped j r running, running]
    | false => simp [perform_send j r running, running]
  | tryPoll =>
    obtain nothing | ⟨t, r, queue, running, free, first, polled⟩ := tryPoll_cases j.mailbox
    · simp [perform_tryPoll_none j nothing]
    · simp [perform_tryPoll_some j polled]
  | reply b =>
    cases outstanding : j.mailbox.pending with
    | none => simp [perform_reply_of_free j b outstanding]
    | some t => simp [perform_reply j b outstanding]
  | shutdown => simp [perform_shutdown, Post.shutdown, Mailbox.shutdown]
  | receive t =>
    obtain same | ⟨b, answered, fetched⟩ := receive_cases j.mailbox t
    · simp [perform_receive, same]
    · simp [perform_receive, fetched]
  | drop t => simp [perform_drop]

theorem play_stopped (j : Journal α β) (ds : List (Deed α β)) :
    (j.play ds).mailbox.stopped = true ↔ j.mailbox.stopped = true ∨ .shutdown ∈ ds := by
  induction ds generalizing j with
  | nil => simp
  | cons d ds ih =>
    rw [play_cons, ih, perform_stopped, List.mem_cons, or_assoc, @eq_comm _ d]

/-- Where a receipt can come from: only its own client lets it be fetched or dropped. -/
theorem receipt_cases (j : Journal α β) (d : Deed α β) {t : Nat} {r : Receipt β}
    (found : (j.perform d).mailbox.receipts[t]? = some r) :
    j.mailbox.receipts[t]? = some r ∨ r = .waiting ∨ (∃ b, r = .answered b) ∨
      (r = .closed ∧ (d = .shutdown ∨ d = .receive t)) ∨ (r = .dropped ∧ d = .drop t) := by
  cases d with
  | send a =>
    cases running : j.mailbox.stopped with
    | true => rw [perform_send_of_stopped j a running] at found; exact .inl found
    | false =>
      rw [perform_send j a running] at found
      by_cases old : t < j.mailbox.receipts.length
      · rw [List.getElem?_append_left old] at found; exact .inl found
      · rw [List.getElem?_append_right (by omega)] at found
        exact .inr (.inl (List.mem_singleton.mp (List.mem_of_getElem? found)))
  | tryPoll =>
    obtain nothing | ⟨u, a, queue, running, free, first, polled⟩ := tryPoll_cases j.mailbox
    · rw [perform_tryPoll_none j nothing] at found; exact .inl found
    · rw [perform_tryPoll_some j polled] at found; exact .inl found
  | reply b =>
    cases outstanding : j.mailbox.pending with
    | none => rw [perform_reply_of_free j b outstanding] at found; exact .inl found
    | some u =>
      rw [perform_reply j b outstanding] at found
      obtain ⟨r₀, old, rfl⟩ := Option.map_eq_some_iff.mp (List.getElem?_modify .. ▸ found)
      -- Only the receipt of the ticket in the slot is resolved.
      by_cases here : u = t
      · cases r₀ <;> simp [here, old, Receipt.resolve]
      · simp [here, old]
  | shutdown =>
    rw [perform_shutdown] at found
    obtain ⟨r₀, old, rfl⟩ := Option.map_eq_some_iff.mp (List.getElem?_map .. ▸ found)
    cases r₀ <;> simp [old, Receipt.close]
  | receive u =>
    rw [perform_receive] at found
    obtain same | ⟨b, answered, fetched⟩ := receive_cases j.mailbox u
    · rw [same] at found; exact .inl found
    · rw [fetched] at found
      obtain ⟨rfl, rfl, _⟩ | old := set_cases found
      · simp
      · exact .inl old
  | drop u =>
    rw [perform_drop] at found
    obtain ⟨rfl, rfl, _⟩ | old := set_cases found
    · simp
    · exact .inl old

theorem drop_mem_of_dropped (ds : List (Deed α β)) {t : Nat}
    (gone : ((new : Journal α β).play ds).mailbox.receipts[t]? = some .dropped) : .drop t ∈ ds := by
  induction ds using List.reverseRecOn with
  | nil => simp [new, mailbox, Post.new, Mailbox.new] at gone
  | append_singleton ds d ih =>
    rw [play_append] at gone
    obtain old | h | ⟨b, h⟩ | ⟨h, _⟩ | ⟨_, rfl⟩ := receipt_cases _ d gone
    · exact List.mem_append_left _ (ih old)
    · cases h
    · cases h
    · cases h
    · simp

/-! ## What nobody changes any more -/

theorem past_perform {j : Journal α β} {t : Nat} {r : Receipt β} (past : r = .closed ∨ r = .dropped)
    (found : j.mailbox.receipts[t]? = some r) {d : Deed α β} (other : d ≠ .drop t) :
    (j.perform d).mailbox.receipts[t]? = some r := by
  have inside := (List.getElem?_eq_some_iff.mp found).1
  cases d with
  | send a =>
    cases running : j.mailbox.stopped with
    | true => rw [perform_send_of_stopped j a running]; exact found
    | false =>
      rw [perform_send j a running]
      exact (List.getElem?_append_left inside).trans found
  | tryPoll =>
    obtain nothing | ⟨u, a, queue, running, free, first, polled⟩ := tryPoll_cases j.mailbox
    · rw [perform_tryPoll_none j nothing]; exact found
    · rw [perform_tryPoll_some j polled]; exact found
  | reply b =>
    cases outstanding : j.mailbox.pending with
    | none => rw [perform_reply_of_free j b outstanding]; exact found
    | some u =>
      -- Whether the slot holds this ticket or not makes no difference.
      have kept : Receipt.resolve b r = r := by obtain rfl | rfl := past <;> rfl
      rw [perform_reply j b outstanding]
      simp [List.getElem?_modify, found, kept]
  | shutdown =>
    have kept : Receipt.close r = r := by obtain rfl | rfl := past <;> rfl
    rw [perform_shutdown]
    simp [Post.shutdown, Mailbox.shutdown, found, kept]
  | receive u =>
    rw [perform_receive]
    obtain same | ⟨b, answered, fetched⟩ := receive_cases j.mailbox u
    · rw [same]; exact found
    · have elsewhere : u ≠ t := by
        rintro rfl
        cases found.symm.trans answered
        cases past <;> contradiction
      rw [fetched]
      exact (List.getElem?_set_ne elsewhere).trans found
  | drop u =>
    have elsewhere : u ≠ t := fun here => other (congrArg Deed.drop here)
    rw [perform_drop]
    exact (List.getElem?_set_ne elsewhere).trans found

/-- A closed receipt stays closed until its client goes away. -/
theorem closed_play {j : Journal α β} {ds : List (Deed α β)} {t : Nat}
    (closed : j.mailbox.receipts[t]? = some .closed) (stays : .drop t ∉ ds) :
    (j.play ds).mailbox.receipts[t]? = some .closed := by
  induction ds generalizing j with
  | nil => exact closed
  | cons d ds ih =>
    rw [List.mem_cons, not_or] at stays
    exact ih (past_perform (.inl rfl) closed (Ne.symm stays.1)) stays.2

/-- Nothing is found any more where a reply has been fetched. -/
theorem unfound_play {j : Journal α β} {t : Nat} {r : Receipt β} (past : r = .closed ∨ r = .dropped)
    (found : j.mailbox.receipts[t]? = some r) (ds : List (Deed α β)) (b : β) :
    ((j.play ds).mailbox.receive t).1 ≠ .value b := by
  induction ds generalizing j r with
  | nil => obtain rfl | rfl := past <;> simp [Mailbox.receive, found]
  | cons d ds ih =>
    by_cases gone : d = .drop t
    · subst gone
      have dropped : (j.perform (.drop t)).mailbox.receipts[t]? = some .dropped := by
        rw [perform_drop]
        exact List.getElem?_set_self (List.getElem?_eq_some_iff.mp found).1
      exact ih (.inr rfl) dropped
    · exact ih past (past_perform past found gone)

end Journal

end NotebookKernel.Mailbox
