import NotebookKernel.CommandLine.Program
import NotebookKernel.Repl.StandIn

/-! # The command line program

The program takes in the files that its arguments name, runs on what it has taken in, and
prints the outcome.  Sessions run on stand-ins for a REPL, such as prepared REPLs with their
documents.
-/

namespace NotebookKernel.CommandLine

open NotebookKernel.Text (Bytes)

/-! ## Taking in files -/

def existsAt (path : String) : IO Bool :=
  try
    let _ ← IO.FS.realPath path
    return true
  catch _ => return false

/-- What stands at a place with some content.  What can be run and is no script is a program of
    the system. -/
def entryOf (content : Bytes) (runnable : Bool) : Entry :=
  if runnable && (Interpreter.ofScript? content).isNone then .program
  else .file content runnable

def takeIn (files : Files) (place : Place) (runnable : Bool) : IO Files := do
  if ← existsAt (place.path ++ "/.") then return files.addDirectory place
  else
    try
      let content ← IO.FS.readBinFile place.path
      return files.add place (entryOf content.toList runnable)
    catch _ => return files

def takeInParts (files : Files) (place : Place) (runnable : Bool) : List String → IO Files
  | [] => return files
  | part :: rest => do
    if Path.isHere part then takeInParts files place runnable rest
    else if part == ".." then takeInParts files place.dropLast runnable rest
    else
      let next := place ++ [part]
      takeInParts (← takeIn files next runnable) next runnable rest

def takeInPath (runnable : Bool) (files : Files) (path : String) : IO Files :=
  let start := if Path.isAbsolute path then [] else files.here
  takeInParts files start runnable (Path.parts path)

def takeInProject (files : Files) (directory : String) : IO Files := do
  let files ← takeInPath false files directory
  Project.lakefiles.foldlM (fun files name => takeInPath false files (Path.join directory name))
    files

/-- Take in the prepared documents of a directory from a number on. -/
partial def takeInDocuments (directory : Place) (number : Nat) (files : Files) : IO Files := do
  let place := directory ++ [toString number]
  let files ← takeIn files place false
  if (files.entry? place).isSome then
    let files ← takeIn files (directory ++ [toString number ++ ".eof"]) false
    takeInDocuments directory (number + 1) files
  else return files

/-- Take in what runs when a path is run: what it leads to, and the interpreter of a script. -/
def takeInRunnable : Nat → Files → String → IO Files
  | 0, files, _ => return files
  | levels + 1, files, path => do
    let files ← takeInPath true files path
    match (files.read path).toOption.bind Interpreter.ofScript? with
    | some i => takeInRunnable levels files i.path
    | none => return files

/-- Take in what can run when a program is run: what it stands for in each directory of the
    search path, if it is a name. -/
def takeInProgram (files : Files) (searchPath : List String) (program : String) : IO Files :=
  let paths := if Path.hasSlash program then [program] else searchPath.map (Path.join · program)
  paths.foldlM (takeInRunnable Invocation.greatestLevels) files

/-- Take in the program of a launch, and the documents if it is a prepared REPL. -/
def takeInLaunch (files : Files) (searchPath : List String) (l : Launch) : IO Files := do
  let files ← takeInPath false files l.directory
  match files.reach l.directory with
  | .error _ => return files
  | .ok directory =>
    -- a launch looks its program up in the directory it enters
    let started := { files with here := directory }
    let started ← takeInProgram started searchPath l.program
    let started ← takeInProgram started searchPath Prepared.homeFinder
    let files := { started with here := files.here }
    match (Invocation.ofLaunch files searchPath l).map (StandIn.start files searchPath) with
    | .ok (.prepared p) => takeInDocuments (p.home ++ ["docs"]) 0 files
    | _ => return files

/-! ## Running -/

partial def readAll (stream : IO.FS.Stream) (read : Bytes) : IO Bytes := do
  let chunk ← stream.read 65536
  if chunk.isEmpty then return read else readAll stream (read ++ chunk.toList)

def renderSeconds (millis : Nat) : String :=
  let tenths := (millis + 50) / 100
  toString (tenths / 10) ++ "." ++ toString (tenths % 10) ++ "s"

def lookAround (o : Options) : IO (Surroundings StandIn) := do
  let started ← IO.monoMsNow
  let here := ((Path.parts (← IO.currentDir).toString).filter (!Path.isHere ·))
  let namedProject ← IO.getEnv Project.variableName
  let searchPath := ((← IO.getEnv "PATH").getD "").splitOn ":"
  let files := ({ entries := [], here := here } : Files).addDirectory here
  let files ← (o.config.toList ++ o.files).foldlM (takeInPath false) files
  let files ← namedProject.toList.foldlM takeInProject files
  let around := fun (files : Files) (elapsed : String) =>
    ({ files, searchPath, namedProject, spawn := StandIn.start files searchPath, elapsed } :
      Surroundings StandIn)
  let files ← match settings (around files "") o with
    | .error _ => pure files
    | .ok (l, _) => takeInLaunch (← takeInProject files l.directory) searchPath l
  return around files (renderSeconds ((← IO.monoMsNow) - started))

def report (outcome : Outcome StandIn) : IO UInt32 := do
  IO.print outcome.output
  match outcome.error with
  | some e => IO.eprintln ("Error: " ++ e)
  | none => if outcome.status = 2 then IO.eprint (helpText none)
  return UInt32.ofNat outcome.status

end NotebookKernel.CommandLine

open NotebookKernel NotebookKernel.CommandLine in
def main (arguments : List String) : IO UInt32 := do
  let o := match Request.ofArguments arguments with
    | .perform _ o => o
    | _ => .none
  let input ← match Request.ofArguments arguments with
    | .perform .serve _ => readAll (← IO.getStdin) []
    | _ => pure []
  report (run StandIn.child (← lookAround o) arguments input)
