import NotebookKernel.Files.Path
import NotebookKernel.Json.Record

/-! # How a REPL is started

A `Launch` names the program, the directory of the REPL's project, and the command that
opens every session.  It can be read from a JSON document.
-/

namespace NotebookKernel

open NotebookKernel.Text (Bytes)

structure Launch where
  /-- The build tool `lake`, which then runs the REPL of the project, or the REPL itself. -/
  program : String
  directory : String
  header : Option String
  headerSeconds : Nat
  deriving Repr, DecidableEq

namespace Launch

def buildTool : String := "lake"

def defaultSeconds : Nat := 300

def inDirectory (directory : String) : Launch :=
  { program := buildTool, directory, header := none, headerSeconds := defaultSeconds }

/-- Whether the program is the build tool, whatever its directory and extension. -/
def usesLake (l : Launch) : Bool :=
  Path.stem? l.program == some buildTool

/-- What the program is told: the build tool is told to run the REPL. -/
def arguments (l : Launch) : List String :=
  if l.usesLake then ["exe", "repl"] else []

/-! ## Reading -/

structure Draft where
  program : Option String
  directory : Option String
  header : Option String
  headerSeconds : Nat

def expectedPath : String := "path string"

def record : Json.Record Draft Launch where
  name := "ReplConfig"
  start := { program := none, directory := none, header := none, headerSeconds := defaultSeconds }
  fields :=
    [ { name := "repl_path", expected := expectedPath, defaulted := false,
        store := fun v d => (v.asString expectedPath).map fun s => { d with program := some s } },
      { name := "project_dir", expected := expectedPath, defaulted := false,
        store := fun v d => (v.asString expectedPath).map fun s => { d with directory := some s } },
      { name := "header", expected := "a string", defaulted := true,
        store := fun v d =>
          (v.asOptional (·.asString "a string")).map fun s => { d with header := s } },
      { name := "startup_timeout_secs", expected := "u64", defaulted := true,
        store := fun v d => v.asUnsigned64.map fun n => { d with headerSeconds := n } } ]
  finish d :=
    match d.program, d.directory with
    | none, _ => .error (.missingField "repl_path")
    | some _, none => .error (.missingField "project_dir")
    | some program, some directory =>
      .ok { program, directory, header := d.header, headerSeconds := d.headerSeconds }

def read (text : Bytes) : Except Json.Failure Launch :=
  record.readDocument text

end Launch

end NotebookKernel
