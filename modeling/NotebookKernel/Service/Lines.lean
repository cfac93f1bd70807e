import NotebookKernel.Service.Basic
import NotebookKernel.Text.ByteLines

/-! # Serving lines

Requests come as lines of bytes and each gets one line in reply.  Blank lines are passed
over; a line that is no request is answered with an error; the first request to shut down
ends the service, and so does the end of the input.
-/

namespace NotebookKernel.Service

open NotebookKernel.Text (Bytes)

/-! ## Lines of bytes -/

/-- The five ASCII characters that are dropped at both ends of a line. -/
def isAsciiBlank (b : UInt8) : Bool :=
  b = 0x20 || b = 0x09 || b = 0x0A || b = 0x0C || b = 0x0D

def trimAscii (line : Bytes) : Bytes :=
  ((line.dropWhile isAsciiBlank).reverse.dropWhile isAsciiBlank).reverse

/-! ## Answers -/

/-- The answer to a line, and whether it is the last one. -/
structure Answer where
  reply : Reply
  last : Bool

variable {ε : Type}

def answerLine (E : Engine ε) (s : Service ε) (line : Bytes) : Answer × Service ε :=
  match Request.parse line with
  | .error failure =>
    (⟨.protocolError ("Invalid request: " ++ failure.message line), false⟩, s)
  | .ok r =>
    match s.request E r with
    | (.ok reply, s) => (⟨reply, r.isShutdown⟩, s)
    | (.error e, s) => (⟨.error (.ofValue "KernelError" e.message), true⟩, s)

/-- Answer lines up to the last one to be answered. -/
def answerLines (E : Engine ε) (s : Service ε) : List Bytes → List Reply × Service ε
  | [] => ([], s)
  | line :: rest =>
    let line := trimAscii line
    if line.isEmpty then answerLines E s rest
    else
      let (answer, s) := answerLine E s line
      if answer.last then ([answer.reply], s)
      else
        let (replies, s) := answerLines E s rest
        (answer.reply :: replies, s)

/-- The text that answers an input, every reply on a line of its own. -/
def serve (E : Engine ε) (s : Service ε) (input : Bytes) : String × Service ε :=
  let (replies, s) := answerLines E s (Text.cutLines input)
  (String.join (replies.map fun r => r.encode ++ "\n"), s)

end NotebookKernel.Service
