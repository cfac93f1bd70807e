import NotebookKernel.Files.Basic
import NotebookKernel.Files.Script
import NotebookKernel.Launch.Basic

/-! # Invocations

An invocation is a launch whose program has been found: a program of the system, what it is
told, and the directory it works in.  A program that is named by a path is looked up from the
directory of the launch; a bare name is looked up in the directories of the search path, where
names that lead to nothing that can be run are passed over.  A script is run by its
interpreter, which is told the path of the script.
-/

namespace NotebookKernel

structure Invocation where
  program : Place
  arguments : List String
  directory : Place
  deriving Repr, DecidableEq

namespace Invocation

/-! ## Paths -/

/-- The file to which a path leads, if it can be run. -/
def runnableAt (files : Files) (path : String) : Except FileError (Place × Entry) :=
  match files.reach path with
  | .error e => .error e
  | .ok place =>
    match files.entry? place with
    | some .program => .ok (place, .program)
    | some (.file content true) => .ok (place, .file content true)
    | _ => .error .denied

/-- Run what a path leads to in the directory where relative paths begin.  The interpreter of
    a script is told its own argument first, then the path of the script, then the arguments.
    It may be a script itself, but there is a limit to the number of files.  The empty path
    stands for the directory here, which cannot be run. -/
def ofPath (files : Files) : Nat → String → List String → Except FileError Invocation
  | 0, path, _ =>
    match runnableAt files path with
    | .error e => .error e
    | .ok _ => .error .tooManyLevels
  | levels + 1, path, arguments =>
    match runnableAt files path with
    | .error e => .error e
    | .ok (_, .file content _) =>
      match Interpreter.ofScript? content with
      | none => .error .badFormat
      | some i =>
        if i.path == "" then .error .denied
        else ofPath files levels i.path (i.argument.toList ++ path :: arguments)
    | .ok (place, _) => .ok { program := place, arguments, directory := files.here }

/-- How many files may be run for one invocation, the program of the system included. -/
def greatestLevels : Nat := 6

/-! ## Names -/

/-- Whether the search for a name goes on after an error. -/
def isPassedOver : FileError → Bool
  | .absent | .denied | .notDirectory => true
  | _ => false

/-- Run the first program with a name in some directories.  If there is none, the search fails
    because one was denied, or else as it did in the last directory. -/
def search (files : Files) (name : String) (arguments : List String) (failure : FileError) :
    List String → Except FileError Invocation
  | [] => .error failure
  | directory :: rest =>
    match ofPath files greatestLevels (Path.join directory name) arguments with
    | .ok i => .ok i
    | .error e =>
      -- a denial is remembered, whatever the later directories hold
      if isPassedOver e then
        search files name arguments (if failure = .denied then .denied else e) rest
      else .error e

def ofProgram (files : Files) (searchPath : List String) (path : String)
    (arguments : List String) : Except FileError Invocation :=
  if path == "" then .error .absent
  else if Path.hasSlash path then ofPath files greatestLevels path arguments
  else if Files.greatestName < path.utf8ByteSize then .error .nameTooLong
  else search files path arguments .absent searchPath

/-! ## Launches -/

/-- The invocation of a launch.  Its directory is entered before its program is looked up. -/
def ofLaunch (files : Files) (searchPath : List String) (l : Launch) :
    Except FileError Invocation :=
  if Path.holdsNul l.program || Path.holdsNul l.directory then .error .nulInData
  else
    match files.reach l.directory with
    | .error e => .error e
    | .ok directory =>
      if files.isDirectoryAt directory then
        ofProgram { files with here := directory } searchPath l.program l.arguments
      else .error .notDirectory

end Invocation

end NotebookKernel
