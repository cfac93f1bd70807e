import NotebookKernel.Launch.Basic

/-! # Overrides

Overrides are the parts of a launch that someone has chosen.  Those of the command line
come before those of a configuration file, and both before the defaults.
-/

namespace NotebookKernel

structure Overrides where
  program : Option String
  directory : Option String
  header : Option String
  headerSeconds : Option Nat
  deriving Repr, DecidableEq

namespace Overrides

def none : Overrides :=
  { program := .none, directory := .none, header := .none, headerSeconds := .none }

/-- The first choices, and the second ones where there is no first one. -/
def orElse (first second : Overrides) : Overrides where
  program := first.program <|> second.program
  directory := first.directory <|> second.directory
  header := first.header <|> second.header
  headerSeconds := first.headerSeconds <|> second.headerSeconds

/-- The launch with the chosen parts, in a directory that has been found unless one has been
    chosen; there is no launch without a directory. -/
def launch (o : Overrides) (found : Option String) : Option Launch :=
  (o.directory <|> found).map fun directory =>
    { program := o.program.getD Launch.buildTool
      directory
      header := o.header
      headerSeconds := o.headerSeconds.getD Launch.defaultSeconds }

def projectNotFound : String :=
  "Lean REPL project not found; set LEAN_REPL_PROJECT, [repl].project_dir or --project"

end Overrides

end NotebookKernel
