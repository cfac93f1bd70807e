import NotebookKernel.Kernel.Basic
import NotebookKernel.Mailbox.Basic

/-! # The service

A worker owns the kernel and works on the requests in a mailbox, one at a time: it takes a
request, lets the kernel handle it, and delivers the reply.  Clients may leave requests, go
away, or stop the service between any two of these steps.
-/

namespace NotebookKernel

/-- What the worker is doing. -/
inductive Work where
  | idle
  /-- It has taken a request that the kernel has not handled. -/
  | taken (request : Request)
  /-- It has a reply that has not been delivered. -/
  | handled (reply : Reply)
  deriving Repr, DecidableEq

structure Service (ε : Type) where
  kernel : Kernel ε
  mailbox : Mailbox Request Reply
  work : Work

namespace Service

variable {ε : Type}

def new (kernel : Kernel ε) : Service ε :=
  { kernel, mailbox := .new, work := .idle }

/-! ## The worker -/

/-- One step of the worker. -/
def step (E : Engine ε) (s : Service ε) : Service ε :=
  match s.work with
  | .idle =>
    match s.mailbox.tryPoll with
    | (some request, mailbox) => { s with mailbox, work := .taken request }
    | (none, mailbox) => { s with mailbox }
  | .taken request =>
    let (reply, kernel) := s.kernel.handle E request
    { s with kernel, work := .handled reply }
  | .handled reply => { s with mailbox := (s.mailbox.reply reply).2, work := .idle }

def steps (E : Engine ε) : Nat → Service ε → Service ε
  | 0, s => s
  | n + 1, s => steps E n (s.step E)

/-- Let the worker finish what it is doing and everything in the queue; a request takes
    three steps. -/
def drain (E : Engine ε) (s : Service ε) : Service ε :=
  s.steps E (3 * (s.mailbox.queue.length + 1))

/-! ## Clients -/

def send (s : Service ε) (request : Request) : Except EngineError Nat × Service ε :=
  let (result, mailbox) := s.mailbox.send request
  (result, { s with mailbox })

/-- Fetch the reply to a request after the worker has had time for it.  Without a reply the
    service has been stopped. -/
def fetch (s : Service ε) (ticket : Nat) : Except EngineError Reply × Service ε :=
  match s.mailbox.receive ticket with
  | (.value reply, mailbox) => (.ok reply, { s with mailbox })
  | (_, mailbox) => (.error .sessionClosed, { s with mailbox })

def request (E : Engine ε) (s : Service ε) (r : Request) : Except EngineError Reply × Service ε :=
  match s.send r with
  | (.error e, s) => (.error e, s)
  | (.ok ticket, s) => (s.drain E).fetch ticket

/-- Send requests in a row and wait for all of their replies. -/
def requests (E : Engine ε) (s : Service ε) (rs : List Request) :
    List (Except EngineError Reply) × Service ε :=
  let (tickets, s) := rs.foldl
    (fun (tickets, s) r => let (t, s) := s.send r; (tickets ++ [t], s)) ([], s)
  tickets.foldl
    (fun (replies, s) ticket =>
      match ticket with
      | .error e => (replies ++ [.error e], s)
      | .ok t => let (reply, s) := s.fetch t; (replies ++ [reply], s))
    ([], s.drain E)

/-! ## The end -/

/-- Stop the mailbox; the worker goes on with what it has begun. -/
def close (s : Service ε) : Service ε :=
  { s with mailbox := s.mailbox.shutdown }

/-- Stop the service, wait for the worker, and release the session; the result says whether
    the session had not been released before. -/
def stop (E : Engine ε) (s : Service ε) : Bool × Service ε :=
  let s := s.close.drain E
  let (released, kernel) := s.kernel.shutdown E
  (released, { s with kernel })

end Service

end NotebookKernel
