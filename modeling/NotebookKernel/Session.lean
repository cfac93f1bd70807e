import NotebookKernel.Cell.Completeness
import NotebookKernel.Cell.Vocabulary
import NotebookKernel.Engine.Command
import NotebookKernel.Engine.Response
import NotebookKernel.Handle

/-! # Sessions

A session sends commands to one engine and carries the environment of each success over to
the next command, so that definitions accumulate.  Failures leave the environment as it was.
Inspection asks the engine for one identifier and changes nothing; completion and the
completeness of a cell are decided without the engine.
-/

namespace NotebookKernel

structure Session (ε : Type) where
  handle : Handle ε
  /-- The environment of the last success that had one. -/
  env : Option Nat
  vocabulary : Cell.Vocabulary

/-- What comes of starting a session: the session, or a failure and the released engine. -/
inductive Start (ε : Type) where
  | opened (session : Session ε)
  | failed (error : EngineError) (released : Option ε)

namespace Session

variable {ε : Type}

def onHandle (handle : Handle ε) : Session ε :=
  { handle, env := none, vocabulary := .default }

def withEngine (e : ε) : Session ε :=
  onHandle (.ready e)

def isClosed (s : Session ε) : Bool :=
  s.handle.phase == .closed

/-! ## Commands -/

/-- Read the engine's answer to a command, without the blanks around it. -/
def readAnswer (answer : Except EngineError String) : Except EngineError Response :=
  answer.bind fun document => Response.decode (String.ofList (Text.trim document.toList))

def send (E : Engine ε) (s : Session ε) (c : Command) :
    Except EngineError Response × Session ε :=
  match s.handle.acquire with
  | .error e => (.error e, s)
  | .ok e =>
    let (answer, e) := E.send e c.document
    (readAnswer answer, { s with handle := s.handle.putBack e })

/-- The environment behind a response: its own, or the one before. -/
def envAfter (env : Option Nat) (r : Response) : Option Nat :=
  r.env <|> env

/-- Run code in the given environment, or else in the current one.  Every failure but a
    closed session is reported as a response. -/
def executeIn (E : Engine ε) (s : Session ε) (code : String) (env : Option Nat) :
    Except EngineError Response × Session ε :=
  match s.send E ⟨code, env <|> s.env⟩ with
  | (.ok r, s) => (.ok r, { s with env := envAfter s.env r })
  | (.error .sessionClosed, s) => (.error .sessionClosed, s)
  -- without an answer there is no new environment
  | (.error e, s) =>
    (.ok (.failed ("Error communicating with Lean REPL: " ++ e.message)), s)

def execute (E : Engine ε) (s : Session ε) (code : String) :
    Except EngineError Response × Session ε :=
  s.executeIn E code none

/-! ## Inspection -/

def checkCommand (name : String) (env : Option Nat) : Command :=
  ⟨"#check " ++ name, env⟩

/-- What is told about an identifier when the engine has answered: the first message. -/
def inspectionText (name : String) (r : Response) : String :=
  match r with
  | .success .. =>
    match r.messages.head?.bind (·.text) with
    | some text => text
    | none => "No information available for: " ++ name
  | .error .. => ""

/-- Type information for the identifier at a cursor, empty if there is none.  The only
    failure is a closed session. -/
def inspect (E : Engine ε) (s : Session ε) (code : String) (cursor : Nat) :
    Except EngineError String × Session ε :=
  if s.isClosed then (.error .sessionClosed, s)
  else
    let span := Cell.Span.at code.toList cursor
    if span.isEmpty then (.ok "", s)
    else
      match s.send E (checkCommand span.name s.env) with
      | (.ok r, s) => (.ok (inspectionText span.name r), s)
      | (.error .sessionClosed, s) => (.error .sessionClosed, s)
      | (.error _, s) => (.ok "", s)

/-! ## Without the engine -/

def complete (s : Session ε) (code : String) (cursor : Nat) : Cell.Completion :=
  s.vocabulary.complete code.toList cursor

def completeness (code : String) : Cell.Completeness :=
  Cell.completeness code.toList

/-! ## Start and end -/

def shutdown (E : Engine ε) (s : Session ε) : Bool × Session ε :=
  let (released, handle) := s.handle.close E.shutdown
  (released, { s with handle })

/-- Why a header did not succeed, if it did not. -/
def headerFailure : Except EngineError Response → Option EngineError
  | .ok (.success output raw env) =>
    if (Response.success output raw env).hasErrors then
      some (.reported (String.ofList (Text.trimEnd output.toList)))
    else none
  | .ok (.error message _) => some (.reported message)
  | .error e => some e

def abandon (E : Engine ε) (s : Session ε) (failure : EngineError) : Start ε :=
  .failed (.bootstrap ("session header failed: " ++ failure.message))
    (s.shutdown E).2.handle.retired.head?

def prepare (E : Engine ε) (s : Session ε) (header : Option String) (seconds : Nat) : Start ε :=
  match header, s.handle.acquire with
  | none, _ => .opened s
  | some _, .error e => s.abandon E e
  | some code, .ok e =>
    let document := Command.document ⟨code, s.env⟩
    let millis := seconds * 1000
    if E.answersWithin e document millis then
      let (result, s) := s.execute E code
      match headerFailure result with
      | none => .opened s
      | some failure => s.abandon E failure
    else
      -- the answer comes too late, so nobody waits for it
      let handle := s.handle.putBack (E.interrupt e document millis)
      abandon E { s with handle } (.timedOut seconds)

def start (E : Engine ε) (e : ε) (header : Option String) (seconds : Nat) : Start ε :=
  let (_, handle) := (Handle.new : Handle ε).init (.ok e)
  (onHandle handle).prepare E header seconds

end Session

end NotebookKernel
