import NotebookKernel.Launch.Basic
import NotebookKernel.Launch.Project
import NotebookKernel.Once

/-! # The runtime

The paths of a launch are checked and resolved once.  The first runtime that is resolved
serves every later session: a session keeps its own header, and starts the program of the
runtime in the directory of the runtime.
-/

namespace NotebookKernel

structure Runtime where
  program : String
  directory : String
  deriving Repr, DecidableEq

namespace Runtime

/-- Check and resolve the paths of a launch. -/
def resolve (files : Files) (l : Launch) : Except EngineError Runtime :=
  match files.locate l.directory with
  | .error e =>
    .error (.bootstrap
      ("REPL project directory " ++ l.directory ++ " is not accessible: " ++ e.message))
  | .ok place =>
    if Project.hasLakefile files place.path then
      .ok { program := l.program, directory := place.path }
    else .error (.bootstrap ("no lakefile found in " ++ place.path))

/-- What a session starts: the program of the runtime, with the session's own header. -/
def launch (r : Runtime) (l : Launch) : Launch :=
  { l with program := r.program, directory := r.directory }

/-- The runtime for a launch: the first one that was resolved, whatever its launch. -/
def shared (cell : Once Runtime) (files : Files) (l : Launch) :
    Except EngineError Runtime × Once Runtime :=
  cell.getOrInit (resolve files l)

end Runtime

end NotebookKernel
