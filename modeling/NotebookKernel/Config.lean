import NotebookKernel.Files.Basic
import NotebookKernel.Launch.Overrides
import NotebookKernel.Toml.Reader

/-! # Configuration

A configuration file is a TOML document with a section `repl`, which overrides parts of a
launch, and a section `kernel`, which tunes the kernel.  A section can be left out, written
as a table, or written as the array of its settings in their order; a date or time in its
place is a section without any setting.  Settings that are not known are passed over.
-/

namespace NotebookKernel

open NotebookKernel.Toml (Table)

structure Tuning where
  /-- How many milliseconds the worker waits before it looks whether to stop. -/
  pollMillis : Nat
  extraWords : List String
  deriving Repr, DecidableEq

def Tuning.default : Tuning :=
  { pollMillis := 100, extraWords := [] }

/-- How many milliseconds the worker really waits: never zero. -/
def Tuning.pollInterval (t : Tuning) : Nat :=
  max t.pollMillis 1

structure Config where
  overrides : Overrides
  tuning : Tuning
  deriving Repr, DecidableEq

inductive ConfigError where
  | unreadable (e : FileError)
  | malformed
  deriving Repr, DecidableEq

def ConfigError.message : ConfigError → String
  | .unreadable e => e.message
  | .malformed => "TOML parse error"

namespace Config

def default : Config :=
  { overrides := .none, tuning := .default }

/-! ## Settings -/

def asString : Toml.Value → Option String
  | .string s => some s
  | _ => none

def asNat : Toml.Value → Option Nat
  | .integer i => if 0 ≤ i then some i.toNat else none
  | _ => none

def asStrings : Toml.Value → Option (List String)
  | .array vs => vs.mapM asString
  | _ => none

/-- A setting of a table, if it is there; `none` if it has the wrong type. -/
def setting? {α : Type} (read : Toml.Value → Option α) (t : Table) (name : String) :
    Option (Option α) :=
  match t.lookup name with
  | none => some none
  | some v => (read v).map some

/-! ## Sections -/

/-- The section `repl`.  As an array it has to be complete. -/
def overridesOf : Toml.Value → Option Overrides
  | .table _ t => do
    let program ← setting? asString t "repl_path"
    let directory ← setting? asString t "project_dir"
    let header ← setting? asString t "header"
    let headerSeconds ← setting? asNat t "startup_timeout_secs"
    some { program, directory, header, headerSeconds }
  | .array (program :: directory :: header :: headerSeconds :: _) => do
    let program ← asString program
    let directory ← asString directory
    let header ← asString header
    let headerSeconds ← asNat headerSeconds
    some { program, directory, header, headerSeconds }
  -- a date has no settings, but is accepted as a section without any
  | .moment => some .none
  | _ => none

def tuningOf : Toml.Value → Option Tuning
  | .table _ t => do
    let pollMillis ← setting? asNat t "poll_interval_ms"
    let extraWords ← setting? asStrings t "extra_completions"
    some
      { pollMillis := pollMillis.getD Tuning.default.pollMillis
        extraWords := extraWords.getD Tuning.default.extraWords }
  | .array [] => some .default
  -- an array may end early, and what it leaves out has its default
  | .array [pollMillis] => (asNat pollMillis).map fun n => { Tuning.default with pollMillis := n }
  | .array (pollMillis :: extraWords :: _) => do
    let pollMillis ← asNat pollMillis
    let extraWords ← asStrings extraWords
    some { pollMillis, extraWords }
  | .moment => some .default
  | _ => none

def ofTable (t : Table) : Option Config := do
  let overrides ← setting? overridesOf t "repl"
  let tuning ← setting? tuningOf t "kernel"
  some
    { overrides := overrides.getD default.overrides
      tuning := tuning.getD default.tuning }

def load (files : Files) : Option String → Except ConfigError Config
  | none => .ok default
  | some path =>
    match files.readText path with
    | .error e => .error (.unreadable e)
    | .ok document =>
      match (Toml.parse document).bind ofTable with
      | some config => .ok config
      | none => .error .malformed

end Config

end NotebookKernel
