import NotebookKernel.Launch.Invocation
import NotebookKernel.Repl.Prepared

/-! # Stand-ins

What is started in place of a REPL is one of a few processes: the shell with the script of a
prepared REPL, `cat`, which writes back what it reads or else the files that it is told, or
anything else, which ends without a word.
-/

namespace NotebookKernel

open NotebookKernel.Text (Bytes bytesOf)

/-- A process in place of a REPL. -/
inductive StandIn where
  | prepared (p : Prepared)
  | echo
  /-- It writes a text, reads nothing and ends. -/
  | recital (text : Bytes)
  deriving Repr

namespace StandIn

/-! ## Start -/

/-- What a file adds to a recital; one that cannot be read is passed over. -/
def recited (files : Files) (path : String) : Bytes :=
  match files.read path with
  | .ok content => content
  | .error _ => []

/-- The home of a script, or the root if the script cannot find out where it stands. -/
def homeOf (files : Files) (searchPath : List String) (path : String) : Place :=
  match Invocation.search files Prepared.homeFinder [] .absent searchPath, files.reach path with
  | .ok _, .ok place => place.dropLast
  | _, _ => []

def start (files : Files) (searchPath : List String) (i : Invocation) : StandIn :=
  let files := { files with here := i.directory }
  match i.program.getLast?, i.arguments with
  | some "cat", [] => .echo
  | some "cat", paths => .recital (paths.flatMap (recited files))
  | some "sh", path :: arguments =>
    if recited files path = bytesOf Prepared.script then
      .prepared (.start files (homeOf files searchPath path) arguments)
    else .recital []
  | _, _ => .recital []

/-! ## Run -/

def logIn (home : Place) : StandIn → Bytes
  | .prepared p => if p.home = home then p.log else []
  | _ => []

def feed : StandIn → Bytes → Except String Bytes × StandIn
  | .prepared p, input =>
    let (output, p) := Prepared.child.feed p input
    (output, .prepared p)
  | .echo, input => (.ok input, .echo)
  | .recital text, _ => (.ok text, .recital [])

def ended : StandIn → Bool
  | .prepared p => p.ended
  | .echo => false
  | .recital text => text.isEmpty

def kill : StandIn → StandIn
  | .prepared p => .prepared (Prepared.child.kill p)
  | _ => .recital []

def child : Child StandIn where
  feed := feed
  delay _ _ := Prepared.answerMillis
  ended := ended
  kill := kill
  feed_of_ended
    | .prepared p, input, ended => Prepared.child.feed_of_ended p input ended
    | .recital text, input, empty => by
      cases List.isEmpty_iff.mp empty
      refine ⟨rfl, fun output written => ?_⟩
      cases written
      rfl

end StandIn

end NotebookKernel
