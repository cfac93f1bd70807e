import NotebookKernel.Kernel.Reply
import NotebookKernel.Kernel.Request
import NotebookKernel.Session

/-! # The kernel

A kernel turns requests into replies by means of a session.  It counts the executions that
are not silent, publishes the output of a success together with the goals it leaves open,
and answers an inspection that comes to nothing with "not found".
-/

namespace NotebookKernel

structure Kernel (ε : Type) where
  session : Session ε
  /-- How many requests to execute code were not silent. -/
  executions : UInt32

namespace Kernel

variable {ε : Type}

def new (session : Session ε) : Kernel ε :=
  { session, executions := 0 }

/-! ## Executing code -/

def errorName : String := "LeanError"

/-- The output of a success, followed by the goals it leaves open. -/
def published (output : String) (r : Response) : String :=
  match r.goalTexts with
  | [] => output
  | goals => output ++ "\nProof goals:\n" ++ String.join (goals.map (· ++ "\n"))

def executeReply (count : UInt32) (silent : Bool) (r : Response) : ExecuteReply :=
  match r with
  | .success output _ _ =>
    if silent || output.isEmpty then .success count none
    else .success count (some (plainText (published output r)))
  | .error message _ => .failure count (.ofValue errorName message)

/-- Run code under a number; a closed session is an error like any other. -/
def execute (E : Engine ε) (k : Kernel ε) (code : String) (count : UInt32) (silent : Bool) :
    ExecuteReply × Kernel ε :=
  let (result, session) := k.session.execute E code
  let response := match result with
    | .ok r => r
    | .error e => .failed e.message
  (executeReply count silent response, { k with session })

/-! ## Other requests -/

def complete (k : Kernel ε) (code : String) (cursor : Nat) : CompleteReply :=
  let c := k.session.complete code cursor
  { status := .ok, words := c.words, start := c.start, stop := c.stop }

/-- What is known about the identifier at a cursor.  No failure is shown. -/
def inspect (E : Engine ε) (k : Kernel ε) (code : String) (cursor : Nat) :
    InspectReply × Kernel ε :=
  let (result, session) := k.session.inspect E code cursor
  let reply := match result with
    | .ok text => if text.isEmpty then .notFound else .ofText text
    | .error _ => .notFound
  (reply, { k with session })

def isComplete (code : String) : IsCompleteReply :=
  { status := (Session.completeness code).name, indent := "  " }

def banner : String :=
  "\n __  __     ______     ______     __   __\n" ++
  "/\\_\\_\\_\\   /\\  ___\\   /\\  __ \\   /\\ \"-.\\ \\\n" ++
  "\\/_/\\_\\/_  \\ \\  __\\   \\ \\  __ \\  \\ \\ \\-.  \\\n" ++
  "  /\\_\\/\\_\\  \\ \\_____\\  \\ \\_\\ \\_\\  \\ \\_\\\\\"\\_\\\n" ++
  "  \\/_/\\/_/   \\/_____/   \\/_/\\/_/   \\/_/ \\/_/\n" ++
  "\nxlean: a notebook kernel for Lean 4\n"

def programName : String := "xlean"

def programVersion : String := "0.1.0"

def info : KernelInfoReply where
  status := .ok
  protocolVersion := "5.3"
  implementation := programName
  implementationVersion := programVersion
  language :=
    { name := "lean", version := "4.0", mimetype := "text/x-lean", fileExtension := ".lean",
      lexer := "lean", editorMode := "lean4", exporter := "" }
  banner := banner
  debugger := false
  helpLinks :=
    [ { text := "Lean Documentation", url := "https://lean-lang.org/documentation/" },
      { text := "Lean Zulip Chat", url := "https://leanprover.zulipchat.com/" } ]

/-- Release the session; the result says whether this call did. -/
def shutdown (E : Engine ε) (k : Kernel ε) : Bool × Kernel ε :=
  let (released, session) := k.session.shutdown E
  (released, { k with session })

/-! ## Requests -/

/-- The number of an execution and the count behind it. -/
def countExecution (k : Kernel ε) (silent : Bool) : Kernel ε :=
  if silent then k else { k with executions := k.executions + 1 }

def handle (E : Engine ε) (k : Kernel ε) : Request → Reply × Kernel ε
  | .execute code silent =>
    let k := k.countExecution silent
    let (reply, k) := k.execute E code k.executions silent
    (.execute reply, k)
  | .complete code cursor => (.complete (k.complete code cursor), k)
  -- the level of detail makes no difference
  | .inspect code cursor _ =>
    let (reply, k) := k.inspect E code cursor
    (.inspect reply, k)
  | .isComplete code => (.isComplete (isComplete code), k)
  | .kernelInfo => (.kernelInfo info, k)
  | .shutdown restart =>
    let (_, k) := k.shutdown E
    (.shutdown { status := .ok, restart }, k)

end Kernel

end NotebookKernel
