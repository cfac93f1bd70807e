import NotebookKernel.Launch.Runtime
import NotebookKernel.Session

/-! # Opening a session

A session is opened in three steps: the runtime is obtained, the engine is started, and the
header is run.  Every failure is a failure to start.
-/

namespace NotebookKernel.Session

variable {ε : Type}

def startFailure (e : FileError) : EngineError :=
  .bootstrap ("failed to start Lean REPL: " ++ e.message)

/-- Open a session for a launch.  The engine is started as the runtime says, which may be
    that of an earlier launch. -/
def openAt (E : Engine ε) (cell : Once Runtime) (files : Files)
    (spawn : Launch → Except FileError ε) (l : Launch) : Start ε × Once Runtime :=
  match Runtime.shared cell files l with
  | (.error e, cell) => (.failed e none, cell)
  | (.ok runtime, cell) =>
    let l := runtime.launch l
    match (Handle.new : Handle ε).init ((spawn l).mapError startFailure) with
    | (.error e, _) => (.failed e none, cell)
    | (.ok _, handle) => ((onHandle handle).prepare E l.header l.headerSeconds, cell)

end NotebookKernel.Session
