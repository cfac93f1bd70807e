import NotebookKernel.Files.Basic
import NotebookKernel.Kernel.Basic

/-! # Batch runs

A batch run executes files in one session, one after the other, and goes on after those that
fail.  It ends early only at a file that cannot be read, and releases the session in any
case.
-/

namespace NotebookKernel

/-- A file that is to be executed: its path, and its text or why it cannot be read. -/
structure Source where
  path : String
  code : Except FileError String

/-- The outcome for a file that was executed. -/
structure Section where
  path : String
  reply : ExecuteReply
  deriving Repr, DecidableEq

structure BatchReport where
  sections : List Section
  unreadable : Option (String × FileError)
  deriving Repr, DecidableEq

namespace Batch

variable {ε : Type}

/-! ## Running -/

/-- Execute files, the first of which has the given number. -/
def runFrom (E : Engine ε) (k : Kernel ε) (number : Nat) : List Source → BatchReport × Kernel ε
  | [] => ({ sections := [], unreadable := none }, k)
  | source :: rest =>
    match source.code with
    | .error e => ({ sections := [], unreadable := some (source.path, e) }, k)
    | .ok code =>
      let (reply, k) := k.execute E code (UInt32.ofNat number) false
      let (report, k) := runFrom E k (number + 1) rest
      ({ report with sections := ⟨source.path, reply⟩ :: report.sections }, k)

def run (E : Engine ε) (k : Kernel ε) (sources : List Source) : BatchReport × Kernel ε :=
  let (report, k) := runFrom E k 1 sources
  (report, (k.shutdown E).2)

end Batch

/-! ## Reports -/

def Section.failed (s : Section) : Bool :=
  s.reply.status == .error

/-- What is printed about a file that was executed. -/
def Section.text (s : Section) : String :=
  "--- " ++ s.path ++ " ---\n" ++
    match s.reply.status with
    | .ok => s.reply.text?.getD ""
    | .error => "error: " ++ (s.reply.error.map (·.value)).getD "" ++ "\n"

namespace BatchReport

def failed (r : BatchReport) : List String :=
  (r.sections.filter (·.failed)).map (·.path)

/-- The summary at the end of a batch that was not cut short. -/
def summary (r : BatchReport) (elapsed : String) : String :=
  "\n--- Run Summary ---\n" ++
    "Files: " ++ toString r.sections.length ++ "\n" ++
    "Failed: " ++ toString r.failed.length ++ "\n" ++
    "Elapsed: " ++ elapsed ++ "\n"

def text (r : BatchReport) (elapsed : String) : String :=
  String.join (r.sections.map (·.text)) ++
    match r.unreadable with
    | some _ => ""
    | none => r.summary elapsed

/-- Why a batch was not a success, unless it was. -/
def error? (r : BatchReport) : Option String :=
  match r.unreadable with
  | some (path, e) => some ("failed to read " ++ path ++ ": " ++ e.message)
  | none =>
    match r.failed with
    | [] => none
    | paths =>
      some (toString paths.length ++ " file(s) failed: " ++ ", ".intercalate paths)

end BatchReport

end NotebookKernel
