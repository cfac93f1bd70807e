import NotebookKernel.Batch
import NotebookKernel.CommandLine.Arguments
import NotebookKernel.Config
import NotebookKernel.Launch.Invocation
import NotebookKernel.Opening
import NotebookKernel.Repl.Worker
import NotebookKernel.Service.Lines

/-! # The program

`run` is everything that the program does, as a function of its arguments, its input and
its surroundings.  An error ends the program with status one after what has been printed
before it; arguments that make no sense end it with status two.
-/

namespace NotebookKernel.CommandLine

open NotebookKernel.Text (Bytes)

/-- What the program finds around it; its processes have the states `κ`. -/
structure Surroundings (κ : Type) where
  files : Files
  searchPath : List String
  /-- The value of the environment variable that names the project. -/
  namedProject : Option String
  spawn : Invocation → κ
  elapsed : String

/-- What the program has done when it ends. -/
structure Outcome (κ : Type) where
  status : Nat
  output : String
  error : Option String
  workers : List (Worker κ)

variable {κ : Type}

/-! ## Outcomes -/

def Outcome.printed (output : String) : Outcome κ :=
  { status := 0, output, error := none, workers := [] }

def Outcome.after (output : String) (error : Option String) (workers : List (Worker κ)) :
    Outcome κ :=
  { status := if error.isSome then 1 else 0, output, error, workers }

def Outcome.misuse : Outcome κ :=
  { status := 2, output := "", error := none, workers := [] }

/-! ## Help -/

def versionText : String :=
  Kernel.programName ++ " " ++ Kernel.programVersion ++ "\n"

def optionsText : String :=
  "Options:\n" ++
  "      --config <CONFIG>        Path to kernel config TOML file\n" ++
  "      --project <PROJECT>      Lean REPL project directory (overrides discovery and config)\n" ++
  "      --repl-path <REPL_PATH>  `lake` or a direct path to the REPL binary\n" ++
  "      --header <HEADER>        Command run once when the session opens, e.g. " ++
  "\"import Mathlib\"\n" ++
  "  -h, --help                   Print help\n"

def helpText : Option Subcommand → String
  | none =>
    "xlean: Lean 4 notebook kernel over the Lean REPL\n\nUsage: xlean <COMMAND>\n\nCommands:\n" ++
    "  serve  Serve JSON-lines kernel requests on stdin, replies on stdout\n" ++
    "  run    Execute Lean files in one session and print their output\n" ++
    "  help   Print this message or the help of the given subcommand(s)\n\n" ++
    "Options:\n  -h, --help     Print help\n  -V, --version  Print version\n"
  | some .serve =>
    "Serve JSON-lines kernel requests on stdin, replies on stdout\n\n" ++
    "Usage: xlean serve [OPTIONS]\n\n" ++ optionsText
  | some .run =>
    "Execute Lean files in one session and print their output\n\n" ++
    "Usage: xlean run [OPTIONS] <FILES>...\n\n" ++
    "Arguments:\n  <FILES>...  Lean files to execute, in order\n\n" ++ optionsText

/-! ## Subcommands -/

/-- The launch and the tuning that options and configuration ask for. -/
def settings (s : Surroundings κ) (o : Options) : Except String (Launch × Tuning) :=
  match Config.load s.files o.config with
  | .error e => .error e.message
  | .ok config =>
    let found := Project.discover s.files s.namedProject
    match (o.overrides.orElse config.overrides).launch found with
    | none => .error Overrides.projectNotFound
    | some l => .ok (l, config.tuning)

def spawnWorker (s : Surroundings κ) (l : Launch) : Except FileError (Worker κ) :=
  (Invocation.ofLaunch s.files s.searchPath l).map fun i => .new (s.spawn i)

/-- Open a kernel and go on with it, or end with an error. -/
def withKernel (C : Child κ) (s : Surroundings κ) (o : Options)
    (use : Kernel (Worker κ) → Outcome κ) : Outcome κ :=
  match settings s o with
  | .error e => .after "" (some e) []
  | .ok (l, tuning) =>
    match (Session.openAt (Worker.engine C) .empty s.files (spawnWorker s) l).1 with
    | .failed e released => .after "" (some e.message) released.toList
    | .opened session =>
      use (.new { session with vocabulary := .withExtra tuning.extraWords })

def serve (C : Child κ) (s : Surroundings κ) (o : Options) (input : Bytes) : Outcome κ :=
  withKernel C s o fun kernel =>
    let E := Worker.engine C
    let (output, service) := (Service.new kernel).serve E input
    let (_, service) := service.stop E
    .after output none service.kernel.session.handle.engines

def runFiles (C : Child κ) (s : Surroundings κ) (o : Options) : Outcome κ :=
  withKernel C s o fun kernel =>
    let sources := o.files.map fun path => { path, code := s.files.readText path }
    let (report, kernel) := Batch.run (Worker.engine C) kernel sources
    .after (report.text s.elapsed) report.error? kernel.session.handle.engines

def run (C : Child κ) (s : Surroundings κ) (arguments : List String) (input : Bytes) : Outcome κ :=
  match Request.ofArguments arguments with
  | .version => .printed versionText
  | .help about => .printed (helpText about)
  | .misuse => .misuse
  | .perform .serve o => serve C s o input
  | .perform .run o => runFiles C s o

end NotebookKernel.CommandLine
