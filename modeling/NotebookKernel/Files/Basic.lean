import NotebookKernel.Files.Path
import NotebookKernel.Text.Utf8

/-! # Files

`Files` is a tree of directories and files, given as a table from places to entries,
together with the directory in which relative paths begin.  `Files.locate` follows a path
through the tree: every part but the last has to stand for a directory.  `Files.reach` does
the same for a path that is opened, entered or run, which may not be too long.
-/

namespace NotebookKernel

open NotebookKernel.Text (Bytes)

inductive FileError where
  | absent
  | badFormat
  | denied
  | notDirectory
  | isDirectory
  | nameTooLong
  | tooManyLevels
  | nulInName
  | nulInData
  | notText
  deriving Repr, DecidableEq

def FileError.message : FileError → String
  | .absent => "No such file or directory (os error 2)"
  | .badFormat => "Exec format error (os error 8)"
  | .denied => "Permission denied (os error 13)"
  | .notDirectory => "Not a directory (os error 20)"
  | .isDirectory => "Is a directory (os error 21)"
  | .nameTooLong => "File name too long (os error 36)"
  | .tooManyLevels => "Too many levels of symbolic links (os error 40)"
  | .nulInName => "file name contained an unexpected NUL byte"
  | .nulInData => "nul byte found in provided data"
  | .notText => "stream did not contain valid UTF-8"

/-- A place in the tree: the names on the way from the root. -/
abbrev Place := List String

def Place.path (place : Place) : String :=
  "/" ++ "/".intercalate place

inductive Entry where
  | directory
  | file (content : Bytes) (runnable : Bool)
  /-- A program of the system: it can be run, and what it holds is no text. -/
  | program
  deriving Repr

/-- A tree of files and the directory in which relative paths begin. -/
structure Files where
  /-- The entries below the root; the first one for a place counts. -/
  entries : List (Place × Entry)
  here : Place

namespace Files

/-! ## Entries -/

/-- The entry at a place.  The root is a directory. -/
def entry? (files : Files) : Place → Option Entry
  | [] => some .directory
  | place => files.entries.lookup place

def isDirectoryAt (files : Files) (place : Place) : Bool :=
  match files.entry? place with
  | some .directory => true
  | _ => false

/-- Add the directories from a place down along some names. -/
def addDirectories (files : Files) (place : Place) : List String → Files
  | [] => files
  | name :: rest =>
    let next := place ++ [name]
    let files :=
      if (files.entry? next).isSome then files
      else { files with entries := (next, .directory) :: files.entries }
    files.addDirectories next rest

def addDirectory (files : Files) (place : Place) : Files :=
  files.addDirectories [] place

def add (files : Files) (place : Place) (entry : Entry) : Files :=
  let files := files.addDirectory place.dropLast
  { files with entries := (place, entry) :: files.entries }

/-- Write a file, and add the directories above it.  A file that could be run still can. -/
def write (files : Files) (place : Place) (content : Bytes) : Files :=
  match files.entry? place with
  | some (.file _ runnable) => files.add place (.file content runnable)
  | _ => files.add place (.file content false)

/-! ## Paths -/

def greatestName : Nat := 255

/-- The place to which one part of a path leads from a directory. -/
def follow (files : Files) (place : Place) (part : String) : Except FileError Place :=
  match files.entry? place with
  | none => .error .absent
  -- to stay or to go up takes a directory too
  | some .directory =>
    if Path.isHere part then .ok place
    else if part == ".." then .ok place.dropLast
    else if greatestName < part.utf8ByteSize then .error .nameTooLong
    else
      match files.entry? (place ++ [part]) with
      | some _ => .ok (place ++ [part])
      | none => .error .absent
  | some _ => .error .notDirectory

/-- The place to which a path leads, part by part.  Nothing has the empty path. -/
def locate (files : Files) (path : String) : Except FileError Place :=
  if Path.holdsNul path then .error .nulInName
  else if path == "" then .error .absent
  else
    let start := if Path.isAbsolute path then [] else files.here
    (Path.parts path).foldlM files.follow start

def greatestPath : Nat := 4095

/-- The place to which a path leads that is used as a whole, so that its length matters. -/
def reach (files : Files) (path : String) : Except FileError Place :=
  if !Path.holdsNul path && greatestPath < path.utf8ByteSize then .error .nameTooLong
  else files.locate path

def isFile (files : Files) (path : String) : Bool :=
  match files.reach path with
  | .error _ => false
  | .ok place =>
    match files.entry? place with
    | some (.file _ _) | some .program => true
    | _ => false

def read (files : Files) (path : String) : Except FileError Bytes :=
  match files.reach path with
  | .error e => .error e
  | .ok place =>
    match files.entry? place with
    | some (.file content _) => .ok content
    | some .program => .error .notText
    | some .directory => .error .isDirectory
    | none => .error .absent

def readText (files : Files) (path : String) : Except FileError String :=
  match files.read path with
  | .error e => .error e
  | .ok content =>
    match Text.decode content with
    | .ok text => .ok (String.ofList text)
    | .error _ => .error .notText

end Files

end NotebookKernel
