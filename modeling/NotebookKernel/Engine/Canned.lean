import NotebookKernel.Engine.Basic
import NotebookKernel.Json.Reader

/-! # Engines with prepared answers

A `Canned` engine answers the commands it knows with prepared documents or failures, and
every other command like a fresh engine, with the next environment.  It keeps what it was
sent.  A `Rehearsal` puts delays and engine errors in front of it.
-/

namespace NotebookKernel

/-! ## Prepared documents -/

inductive CannedAnswer where
  | document (text : String)
  | failure (reason : String)
  deriving Repr, DecidableEq

/-- An engine with prepared answers to some commands. -/
structure Canned where
  /-- The prepared answers by command; the last one for a command counts. -/
  answers : List (String × CannedAnswer)
  nextEnv : Nat
  log : List Json.Value
  releases : Nat

namespace Canned

def fresh (answers : List (String × CannedAnswer)) : Canned :=
  { answers, nextEnv := 0, log := [], releases := 0 }

/-- The code in a command's document; empty if there is none. -/
def codeOf (document : Json.Value) : String :=
  match document.get? "cmd" with
  | some (.string code) => code
  | _ => ""

def send (e : Canned) (request : String) : Except EngineError String × Canned :=
  let text := Text.bytesOf request
  match Json.parse text with
  | .error failure =>
    (.error (.transport ("mock received invalid request: " ++ failure.message text)), e)
  | .ok document =>
    let e := { e with log := document :: e.log }
    match e.answers.reverse.lookup (codeOf document) with
    | some (.document text) => (.ok text, e)
    | some (.failure reason) => (.error (.transport reason), e)
    | none =>
      (.ok ("\x7b\"env\": " ++ toString e.nextEnv ++ "\x7d"), { e with nextEnv := e.nextEnv + 1 })

def shutdown (e : Canned) : Canned :=
  { e with releases := e.releases + 1 }

def engine : Engine Canned where
  send := send
  delay _ _ := some 0
  interrupt e _ _ := e
  shutdown := shutdown

end Canned

/-! ## Prepared failures and delays -/

structure Rehearsal where
  canned : Canned
  /-- Commands that fail before they reach the prepared answers; the last entry counts. -/
  errors : List (String × EngineError)
  delays : List (String × Nat)
  sent : List String

namespace Rehearsal

def codeOf (request : String) : String :=
  match Json.parse (Text.bytesOf request) with
  | .ok document => Canned.codeOf document
  | .error _ => ""

def send (e : Rehearsal) (request : String) : Except EngineError String × Rehearsal :=
  let e := { e with sent := request :: e.sent }
  match e.errors.reverse.lookup (codeOf request) with
  | some error => (.error error, e)
  | none =>
    let (answer, canned) := e.canned.send request
    (answer, { e with canned })

def engine : Engine Rehearsal where
  send := send
  delay e request := some ((e.delays.reverse.lookup (codeOf request)).getD 0)
  interrupt e request _ := { e with sent := request :: e.sent }
  shutdown e := { e with canned := e.canned.shutdown }

end Rehearsal

end NotebookKernel
