/-! # Why an exchange with the engine fails

Every operation on an engine or a session that can fail does so for one of these causes;
`EngineError.message` is their wording.
-/

namespace NotebookKernel

inductive EngineError where
  /-- The engine's process ended or can no longer be trusted. -/
  | processDied
  | timedOut (seconds : Nat)
  | badDocument (reason : String)
  /-- The engine itself reported an error. -/
  | reported (reason : String)
  /-- The exchange failed before there was an answer. -/
  | transport (reason : String)
  | sessionClosed
  | bootstrap (reason : String)
  | io (reason : String)
  deriving Repr, DecidableEq

def EngineError.message : EngineError → String
  | .processDied => "Lean process exited unexpectedly"
  | .timedOut seconds => "Timed out after " ++ toString seconds ++ "s"
  | .badDocument reason => "Decode error: " ++ reason
  | .reported reason => "Lean error: " ++ reason
  | .transport reason => "Transport failure: " ++ reason
  | .sessionClosed => "Session closed"
  | .bootstrap reason => "Bootstrap failed: " ++ reason
  | .io reason => reason

end NotebookKernel
