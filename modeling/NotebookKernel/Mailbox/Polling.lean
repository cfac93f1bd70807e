import NotebookKernel.Mailbox.Basic
import NotebookKernel.Schedule.Agenda

/-! # Waiting for requests

A poller that finds no request goes to sleep until it is woken or its time is up.  Every
change of the mailbox wakes the poller that has slept longest, or leaves a permit for the
next one that wants to sleep; stopping the mailbox wakes them all.  A woken poller that
finds nothing goes to sleep again, behind the others, and sets its timer anew.
-/

namespace NotebookKernel.Mailbox

open NotebookKernel.Schedule (Agenda)

/-! ## Wake-up calls -/

structure Bell where
  /-- A wake-up call that found nobody asleep. -/
  permit : Bool
  sleepers : List Nat
  /-- The pollers that have been woken and have not noticed yet. -/
  woken : List Nat
  deriving Repr, DecidableEq

namespace Bell

def new : Bell :=
  { permit := false, sleepers := [], woken := [] }

/-- Wake the longest sleeper, or leave a permit. -/
def ring (b : Bell) : Bell :=
  match b.sleepers with
  | [] => { b with permit := true }
  | id :: sleepers => { b with sleepers, woken := b.woken ++ [id] }

def ringAll (b : Bell) : Bell :=
  { b with sleepers := [], woken := b.woken ++ b.sleepers }

/-- Go to sleep; the result says whether a permit prevented it. -/
def doze (b : Bell) (id : Nat) : Bool × Bell :=
  if b.permit then (true, { b with permit := false })
  else (false, { b with sleepers := b.sleepers ++ [id] })

def getUp (b : Bell) (id : Nat) : Bool × Bell :=
  (b.woken.contains id,
    { b with sleepers := b.sleepers.filter (· != id), woken := b.woken.filter (· != id) })

end Bell

/-! ## Pollers -/

structure Post (α β : Type) where
  mailbox : Mailbox α β
  bell : Bell

inductive PollPhase (α : Type) where
  | looking
  | checking
  | dozing
  | asleep
  | done (request : Option α)

namespace Post

variable {α β : Type}

def new : Post α β :=
  { mailbox := .new, bell := .new }

def send (p : Post α β) (request : α) : Except EngineError Nat × Post α β :=
  match p.mailbox.send request with
  | (.ok ticket, mailbox) => (.ok ticket, { mailbox, bell := p.bell.ring })
  | (.error e, mailbox) => (.error e, { p with mailbox })

def reply (p : Post α β) (reply : β) : Bool × Post α β :=
  let (outstanding, mailbox) := p.mailbox.reply reply
  (outstanding, { mailbox, bell := p.bell.ring })

/-- Stop the mailbox, wake everyone, and leave a call for a poller about to sleep. -/
def shutdown (p : Post α β) : Post α β :=
  { mailbox := p.mailbox.shutdown, bell := p.bell.ringAll.ring }

/-- One step of a poller that is not asleep. -/
def pollStep (p : Post α β) (id : Nat) : PollPhase α → PollPhase α × Post α β
  | .looking =>
    match p.mailbox.tryPoll with
    | (some request, mailbox) => (.done (some request), { p with mailbox })
    | (none, mailbox) => (.checking, { p with mailbox })
  -- a request that comes from here on leaves a permit, so no call is missed
  | .checking => (if p.mailbox.stopped then .done none else .dozing, p)
  | .dozing =>
    let (kept, bell) := p.bell.doze id
    (if kept then .looking else .asleep, { p with bell })
  | .asleep => (.asleep, p)
  | .done request => (.done request, p)

/-- Let a poller run until it sleeps or is done.  A permit is used up in the first round, so
    the second one ends. -/
def pollRun (p : Post α β) (id : Nat) (phase : PollPhase α) : PollPhase α × Post α β :=
  let step := fun (phase, post) => pollStep post id phase
  step (step (step (step (step (step (phase, p))))))

end Post

/-! ## A play of pollers and clients -/

inductive Deed (α β : Type) where
  | send (request : α)
  | tryPoll
  | reply (reply : β)
  | shutdown
  | receive (ticket : Nat)
  | drop (ticket : Nat)

inductive Outcome (α β : Type) where
  | ticket (t : Nat)
  | failed (e : EngineError)
  | request (r : Option α)
  | outstanding (b : Bool)
  | delivery (d : Delivery β)
  | nothing

def Post.perform {α β : Type} (p : Post α β) : Deed α β → Outcome α β × Post α β
  | .send request =>
    match p.send request with
    | (.ok t, p) => (.ticket t, p)
    | (.error e, p) => (.failed e, p)
  | .tryPoll =>
    let (r, mailbox) := p.mailbox.tryPoll
    (.request r, { p with mailbox })
  | .reply b =>
    let (outstanding, p) := p.reply b
    (.outstanding outstanding, p)
  | .shutdown => (.nothing, p.shutdown)
  | .receive t =>
    let (d, mailbox) := p.mailbox.receive t
    (.delivery d, { p with mailbox })
  | .drop t => (.nothing, { p with mailbox := p.mailbox.drop t })

/-- Who is woken: a poller for the first time, a poller whose time is up or whose bell rang,
    or the client with its next deed. -/
inductive Call where
  | begin (id : Nat)
  | poller (id : Nat)
  | client
  deriving Repr, DecidableEq

structure Play (α β : Type) where
  post : Post α β
  agenda : Agenda Call
  timeout : Nat
  polled : List (Nat × Option α)
  deeds : List (Nat × Deed α β)
  outcomes : List (Outcome α β)

namespace Play

variable {α β : Type}

/-- Put the pollers that the bell has woken on the agenda. -/
def callWoken (before : Bell) (p : Play α β) : Play α β :=
  let fresh := p.post.bell.woken.filter fun id =>
    !before.woken.contains id && !p.agenda.ready.contains (.poller id)
  { p with agenda := fresh.foldl (fun a id => a.wake (.poller id)) p.agenda }

def runPoller (p : Play α β) (id : Nat) : Play α β :=
  match p.post.pollRun id .looking with
  | (.done request, post) => { p with post, polled := (id, request) :: p.polled }
  | (_, post) => { p with post }

def giveUp (p : Play α β) (id : Nat) : Play α β :=
  let (_, bell) := p.post.bell.getUp id
  { p with post := { p.post with bell }, polled := (id, none) :: p.polled }

/-- The client performs its deeds up to the next one that has to wait. -/
def runClient (p : Play α β) : Nat → Play α β
  | 0 => p
  | steps + 1 =>
    match p.deeds with
    | [] => p
    | (0, deed) :: deeds =>
      let (outcome, post) := p.post.perform deed
      let q := { p with post, deeds, outcomes := outcome :: p.outcomes }
      (q.callWoken p.post.bell).runClient steps
    | (after, deed) :: deeds =>
      { p with deeds := (0, deed) :: deeds, agenda := p.agenda.sleep after .client }

/-- Answer a call.  A poller that was not woken by the bell has run out of time. -/
def answer (p : Play α β) : Call → Play α β
  | .begin id =>
    let q := p.runPoller id
    if q.polled.any (·.1 == id) then q
    else if p.timeout = 0 then q.giveUp id
    else { q with agenda := q.agenda.sleep p.timeout (.poller id) }
  | .poller id =>
    if p.polled.any (·.1 == id) then p
    else
      -- a poller can be woken and run out of time at once; then this look is its last
      let due := !(p.agenda.timers.any fun timer => timer.2 == .poller id)
      let (woken, bell) := p.post.bell.getUp id
      if woken then
        let q := { p with post := { p.post with bell } }.runPoller id
        if q.polled.any (·.1 == id) then q
        else if due then q.giveUp id
        else { q with agenda := q.agenda.renew (.poller id) }
      else p.giveUp id
  | .client => p.runClient p.deeds.length

/-- Answer calls until nothing is left to do, or for a number of steps.  The client goes
    before pollers that are called at the same time. -/
def loop : Nat → Play α β → Play α β
  | 0, p => p
  | steps + 1, p =>
    match p.agenda.nextUrgent (· == .client) with
    | none => p
    | some (call, agenda) => loop steps ({ p with agenda }.answer call)

end Play

/-- Let pollers wait for up to `timeout` milliseconds while a client performs its deeds.  The
    result holds what the pollers came back with, and the outcomes of the deeds.  Every deed
    wakes each poller once at most. -/
def Post.poll {α β : Type} (p : Post α β) (timeout pollers : Nat) (deeds : List (Nat × Deed α β)) :
    List (Option (Option α)) × List (Outcome α β) × Post α β :=
  let ids := List.range pollers
  let play : Play α β :=
    { post := p, agenda := .start (.client :: ids.map .begin), timeout
      polled := [], deeds, outcomes := [] }
  let play := play.loop ((deeds.length + 2) * (pollers + 2))
  (ids.map fun id => play.polled.lookup id, play.outcomes.reverse, play.post)

end NotebookKernel.Mailbox
