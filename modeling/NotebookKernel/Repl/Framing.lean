import NotebookKernel.Engine.Failure
import NotebookKernel.Text.Blank
import NotebookKernel.Text.ByteLines

/-! # Framing

A REPL writes documents one after the other.  A document is a run of lines that are not
blank, and a blank line ends it; further blank lines may stand in front of it.
-/

namespace NotebookKernel.Framing

open NotebookKernel.Text (Bytes)

/-- Read the next document from the lines of a stream, and leave the lines behind its end.
    The lines of the document read so far are `reversed`.  A stream that ends before the
    document does comes from a process that has ended. -/
def readLines (reversed : List (List Char)) :
    List Bytes → Except EngineError (String × List Bytes)
  | [] => .error .processDied
  | line :: rest =>
    match Text.decode line with
    | .error fault => .error (.io fault.message)
    | .ok cs =>
      if Text.isBlankText cs then
        -- a document has not begun before its first line
        if reversed.isEmpty then readLines [] rest
        else .ok (String.ofList reversed.reverse.flatten, rest)
      else readLines (cs :: reversed) rest

/-- The lines that can be read from a stream, and what is left behind them: a last line without
    an end can be read only when the stream has ended. -/
def linesOf (ended : Bool) (stream : Bytes) : List Bytes × Bytes :=
  if ended then (Text.cutLines stream, []) else Text.cutWhole stream

def read (ended : Bool) (stream : Bytes) : Except EngineError (String × Bytes) :=
  let (lines, begun) := linesOf ended stream
  (readLines [] lines).map fun (document, rest) => (document, rest.flatten ++ begun)

/-- The bytes that hand a request to a REPL: a blank line ends it. -/
def write (request : String) : Bytes :=
  Text.bytesOf (request ++ "\n\n")

end NotebookKernel.Framing
