import NotebookKernel.Files.Basic
import NotebookKernel.Repl.Worker

/-! # Prepared REPLs

A prepared REPL is a child process that answers each request with the next of the documents
prepared for it, and ends when there is none.  The documents are the files `0`, `1`, … of a
directory `docs` in its home; a file such as `1.eof` makes the process end after that
document.  It keeps a log of the requests, which begins with how it was invoked.
`Prepared.script` is the program of the shell that does this.
-/

namespace NotebookKernel

open NotebookKernel.Text (Bytes bytesOf)

structure PreparedDocument where
  content : Bytes
  last : Bool
  deriving Repr

structure Prepared where
  arguments : List String
  directory : Place
  home : Place
  documents : List PreparedDocument
  log : Bytes
  /-- Whether it has answered a request. -/
  answered : Bool
  /-- Whether it has read a line of a request that is not at its end. -/
  reading : Bool
  ended : Bool
  deriving Repr

namespace Prepared

/-! ## The script -/

def homeFinder : String := "dirname"

/-- The program of the shell that is a prepared REPL. -/
def script : String :=
  "#!/bin/sh\n" ++
  "d=$(" ++ homeFinder ++ " \"$0\")\n" ++
  "i=0\n" ++
  "while :; do\n" ++
  "  got=\n" ++
  "  while IFS= read -r line; do\n" ++
  "    [ -z \"$line\" ] && break\n" ++
  "    if [ -z \"$got\" ] && [ \"$i\" = 0 ]; then " ++
  "printf 'start [%s] in %s\\n' \"$*\" \"$(pwd)\" >> \"$d/log\"; fi\n" ++
  "    got=1\n" ++
  "    printf '%s\\n' \"$line\" >> \"$d/log\"\n" ++
  "  done\n" ++
  "  [ -z \"$got\" ] && exit 0\n" ++
  "  printf '\\n' >> \"$d/log\"\n" ++
  "  [ -f \"$d/docs/$i\" ] || exit 0\n" ++
  "  cat \"$d/docs/$i\"\n" ++
  "  [ -f \"$d/docs/$i.eof\" ] && exit 0\n" ++
  "  i=$((i+1))\n" ++
  "done\n"

/-! ## Documents -/

/-- The prepared documents from a number on, as many as `rounds` allows. -/
def documentsFrom (files : Files) (directory : Place) : Nat → Nat → List PreparedDocument
  | 0, _ => []
  | rounds + 1, number =>
    let name := toString number
    match files.entry? (directory ++ [name]) with
    | some (.file content _) =>
      let last := match files.entry? (directory ++ [name ++ ".eof"]) with
        | some (.file _ _) => true
        | _ => false
      { content, last } :: documentsFrom files directory rounds (number + 1)
    | _ => []

def start (files : Files) (home : Place) (arguments : List String) : Prepared where
  arguments := arguments
  directory := files.here
  home := home
  documents := documentsFrom files (home ++ ["docs"]) files.entries.length 0
  log := []
  answered := false
  reading := false
  ended := false

/-! ## Requests -/

def logHeader (p : Prepared) : Bytes :=
  bytesOf ("start [" ++ " ".intercalate p.arguments ++ "] in " ++ p.directory.path ++ "\n")

def answer (p : Prepared) : Bytes × Prepared :=
  let p := { p with log := p.log ++ [0x0A], reading := false }
  match p.documents with
  | [] => ([], { p with ended := true })
  | document :: documents =>
    (document.content, { p with documents, answered := true, ended := document.last })

/-- Read a line of a request; zero bytes are passed over.  A blank line is the end of a
    request, or of the process if there is no request. -/
def readLine (p : Prepared) (line : Bytes) : Bytes × Prepared :=
  let line := line.filter (· != 0)
  if p.ended then ([], p)
  else if line = [0x0A] then
    if p.reading then p.answer else ([], { p with ended := true })
  else
    -- how it was invoked is logged in front of the first request
    let header := if p.answered || p.reading then [] else p.logHeader
    ([], { p with log := p.log ++ header ++ line, reading := true })

def readLines (p : Prepared) : List Bytes → Bytes × Prepared
  | [] => ([], p)
  | line :: rest =>
    let (output, p) := p.readLine line
    let (more, p) := p.readLines rest
    (output ++ more, p)

theorem readLines_of_ended {p : Prepared} (ended : p.ended = true) (lines : List Bytes) :
    p.readLines lines = ([], p) := by
  induction lines with
  | nil => rfl
  | cons line rest ih => simp only [readLines, readLine, ended, if_true, ih, List.append_nil]

def answerMillis : Nat := 1

/-- Prepared REPLs as child processes.  What is written to one that has ended is lost. -/
def child : Child Prepared where
  feed p input :=
    let (output, p) := p.readLines (Text.cutLines input)
    (.ok output, p)
  delay _ _ := answerMillis
  ended p := p.ended
  kill p := { p with ended := true }
  feed_of_ended p input ended := by
    rw [readLines_of_ended ended]
    refine ⟨ended, fun output written => ?_⟩
    cases written
    rfl

end Prepared

end NotebookKernel
