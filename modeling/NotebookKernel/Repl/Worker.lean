import NotebookKernel.Engine.Basic
import NotebookKernel.Repl.Framing

/-! # Workers

A worker is an engine that talks to a child process.  After the first failure the rest of
an answer may still be on its way, so the worker never uses its process again.
-/

namespace NotebookKernel

open NotebookKernel.Text (Bytes)

structure Child (κ : Type) where
  /-- Write to the process.  The result is what the process writes before it waits for more,
      or the reason why it cannot be written to. -/
  feed : κ → Bytes → Except String Bytes × κ
  /-- How many milliseconds the process takes to write that. -/
  delay : κ → Bytes → Nat
  ended : κ → Bool
  kill : κ → κ
  /-- A process that has ended stays so and writes nothing more. -/
  feed_of_ended : ∀ c input, ended c = true →
    ended (feed c input).2 = true ∧ ∀ output, (feed c input).1 = .ok output → output = []

structure Worker (κ : Type) where
  child : κ
  unread : Bytes
  /-- Whether the process can still be trusted. -/
  alive : Bool
  handled : Nat
  deriving Repr

namespace Worker

variable {κ : Type}

def new (child : κ) : Worker κ :=
  { child, unread := [], alive := true, handled := 0 }

/-- Exchange a request for a document.  Nobody waits for an answer that never comes: it counts
    as the end of the process. -/
def exchange (C : Child κ) (w : Worker κ) (request : String) :
    Except EngineError String × Worker κ :=
  match C.feed w.child (Framing.write request) with
  | (.error reason, child) => (.error (.io reason), { w with child })
  | (.ok output, child) =>
    match Framing.read (C.ended child) (w.unread ++ output) with
    -- what was written cannot be taken apart any more
    | .error e => (.error e, { w with child, unread := [] })
    | .ok (document, unread) => (.ok document, { w with child, unread, handled := w.handled + 1 })

/-- Answer a request; a failure is the end of the worker. -/
def send (C : Child κ) (w : Worker κ) (request : String) :
    Except EngineError String × Worker κ :=
  if w.alive then
    match w.exchange C request with
    | (.ok document, w) => (.ok document, w)
    | (.error e, w) => (.error e, { w with alive := false })
  else (.error .processDied, w)

def shutdown (C : Child κ) (w : Worker κ) : Worker κ :=
  { w with child := C.kill w.child, alive := false }

/-- How long the answer to a request takes; it never comes if the process waits for more
    before it has written a whole document. -/
def delay (C : Child κ) (w : Worker κ) (request : String) : Option Nat :=
  let millis := C.delay w.child (Framing.write request)
  match C.feed w.child (Framing.write request) with
  | (.error _, _) => some millis
  | (.ok output, child) =>
    match Framing.read (C.ended child) (w.unread ++ output) with
    | .error .processDied => if C.ended child then some millis else none
    | _ => some millis

/-- Give up an exchange after so many milliseconds.  The process has noticed the request if
    it had the time for it. -/
def interrupt (C : Child κ) (w : Worker κ) (request : String) (millis : Nat) : Worker κ :=
  if millis < C.delay w.child (Framing.write request) then w
  else { w with child := (C.feed w.child (Framing.write request)).2 }

def engine (C : Child κ) : Engine (Worker κ) where
  send := send C
  delay := delay C
  interrupt := interrupt C
  shutdown := shutdown C

end Worker

end NotebookKernel
