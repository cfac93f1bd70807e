import NotebookKernel.Engine.Failure

/-! # Mailboxes

Any number of clients leave requests in a mailbox and get a ticket for the reply.  One
request is worked on at a time: the next one can be taken only after the reply to the last
one.  Stopping the mailbox closes every ticket that has no reply yet.
-/

namespace NotebookKernel

inductive Receipt (β : Type) where
  | waiting
  | answered (reply : β)
  /-- There will be no reply, or it has been fetched. -/
  | closed
  /-- The client has gone away. -/
  | dropped
  deriving Repr, DecidableEq

structure Mailbox (α β : Type) where
  /-- The requests that nobody has taken, with their tickets. -/
  queue : List (Nat × α)
  /-- The ticket of the request that was taken and has no reply yet. -/
  pending : Option Nat
  stopped : Bool
  receipts : List (Receipt β)
  deriving Repr

namespace Mailbox

variable {α β : Type}

def new : Mailbox α β :=
  { queue := [], pending := none, stopped := false, receipts := [] }

/-! ## Requests and replies -/

def send (m : Mailbox α β) (request : α) : Except EngineError Nat × Mailbox α β :=
  if m.stopped then (.error .sessionClosed, m)
  else
    let ticket := m.receipts.length
    (.ok ticket,
      { m with queue := m.queue ++ [(ticket, request)], receipts := m.receipts ++ [.waiting] })

/-- Take the next request, unless a reply is outstanding or the mailbox has stopped. -/
def tryPoll (m : Mailbox α β) : Option α × Mailbox α β :=
  if m.stopped || m.pending.isSome then (none, m)
  else
    match m.queue with
    | [] => (none, m)
    | (ticket, request) :: queue => (some request, { m with queue, pending := some ticket })

/-- A receipt when its reply comes; a client that has gone away gets nothing. -/
def Receipt.resolve (reply : β) : Receipt β → Receipt β
  | .waiting => .answered reply
  | r => r

def Receipt.close : Receipt β → Receipt β
  | .waiting => .closed
  | r => r

/-- Deliver the reply to the request that was taken; the result says whether there was one. -/
def reply (m : Mailbox α β) (reply : β) : Bool × Mailbox α β :=
  match m.pending with
  | none => (false, m)
  | some ticket =>
    (true,
      { m with pending := none, receipts := m.receipts.modify ticket (Receipt.resolve reply) })

/-- Stop the mailbox: nothing is accepted or taken any more, and every receipt without a
    reply is closed. -/
def shutdown (m : Mailbox α β) : Mailbox α β :=
  { queue := [], pending := none, stopped := true, receipts := m.receipts.map Receipt.close }

/-! ## Clients -/

inductive Delivery (β : Type) where
  | value (reply : β)
  | empty
  | closed
  /-- There is no such client, or it has gone away. -/
  | absent
  deriving Repr, DecidableEq

/-- Look for the reply to a ticket; a reply can be fetched once. -/
def receive (m : Mailbox α β) (ticket : Nat) : Delivery β × Mailbox α β :=
  match m.receipts[ticket]? with
  | none => (.absent, m)
  | some .waiting => (.empty, m)
  | some (.answered reply) =>
    (.value reply, { m with receipts := m.receipts.set ticket .closed })
  | some .closed => (.closed, m)
  | some .dropped => (.absent, m)

def drop (m : Mailbox α β) (ticket : Nat) : Mailbox α β :=
  { m with receipts := m.receipts.set ticket .dropped }

end Mailbox

end NotebookKernel
