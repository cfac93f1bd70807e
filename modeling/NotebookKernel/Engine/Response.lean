import NotebookKernel.Engine.Failure
import NotebookKernel.Engine.Goal
import NotebookKernel.Json.Record

/-! # Responses

The engine answers a command with one JSON object.  A member `error` makes it an error,
whatever else it holds; otherwise it has to have the form of a success: an environment,
messages and sorries, all optional.  `Response.decode` decides which it is.  The document is
kept, so `messages`, `sorries` and `goals` can be read from it at any time.
-/

namespace NotebookKernel

open NotebookKernel.Json (Value Record RecordField ShapeError)

/-! ## Parts of a response -/

inductive Severity where
  | info
  | warning
  | error
  | other
  deriving Repr, DecidableEq

/-- A place in the code of a command: lines from one, columns from zero. -/
structure Position where
  line : Nat
  column : Nat
  deriving Repr, DecidableEq

structure Diagnostic where
  severity : Severity
  text : Option String
  start : Option Position
  stop : Option Position
  deriving Repr, DecidableEq

/-- A place where a proof was left open, with the goal to be shown there. -/
structure Hole where
  goal : Option String
  start : Option Position
  stop : Option Position
  deriving Repr, DecidableEq

/-! ## Their JSON form -/

/-- The severity of a given name; every unknown name is `other`. -/
def Severity.ofName (name : String) : Severity :=
  if name = "info" then .info
  else if name = "warning" then .warning
  else if name = "error" then .error
  else .other

/-- A severity is a name, or an object whose only key is the name and whose value is null. -/
def Severity.ofJson : Value → Except ShapeError Severity
  | .string name => .ok (.ofName name)
  | .object [(name, .null)] => .ok (.ofName name)
  | .object [(_, v)] => v.refuse "unit"
  | .object _ => .error (.invalidValue .map "map with a single key")
  | v => v.refuse "string or map"

def unsignedField {σ : Type} (name : String) (set : Nat → σ → σ) : RecordField σ where
  name := name
  expected := "u64"
  defaulted := false
  store v s := v.asUnsigned64.map (set · s)

def optionalTextField {σ : Type} (name : String) (defaulted : Bool)
    (set : Option String → σ → σ) : RecordField σ where
  name := name
  expected := "a string"
  defaulted := defaulted
  store v s := (v.asOptional (Value.asString "a string")).map (set · s)

def Position.record : Record (Option Nat × Option Nat) Position where
  name := "Position"
  start := (none, none)
  fields :=
    [ unsignedField "line" fun n s => (some n, s.2),
      unsignedField "column" fun n s => (s.1, some n) ]
  finish
    | (none, _) => .error (.missingField "line")
    | (_, none) => .error (.missingField "column")
    | (some line, some column) => .ok ⟨line, column⟩

def positionField {σ : Type} (name : String) (set : Option Position → σ → σ) : RecordField σ where
  name := name
  expected := Position.record.expected
  defaulted := false
  store v s := (v.asOptional Position.record.decode).map (set · s)

/-- A message; without a severity it is for information. -/
def Diagnostic.record : Record Diagnostic Diagnostic where
  name := "ReplMessage"
  start := ⟨.info, none, none, none⟩
  fields :=
    [ { name := "severity"
        expected := "string or map"
        defaulted := true
        store := fun v s => (Severity.ofJson v).map fun x => { s with severity := x } },
      optionalTextField "data" false fun x s => { s with text := x },
      positionField "pos" fun x s => { s with start := x },
      positionField "endPos" fun x s => { s with stop := x } ]
  finish := .ok

def Hole.record : Record Hole Hole where
  name := "Sorry"
  start := ⟨none, none, none⟩
  fields :=
    [ optionalTextField "goal" false fun x s => { s with goal := x },
      positionField "pos" fun x s => { s with start := x },
      positionField "endPos" fun x s => { s with stop := x } ]
  finish := .ok

def Diagnostic.listOfJson : Value → Except ShapeError (List Diagnostic) :=
  Value.asList Diagnostic.record.decode

def Hole.listOfJson : Value → Except ShapeError (List Hole) :=
  Value.asList Hole.record.decode

structure Outcome where
  env : Option Nat
  messages : List Diagnostic
  holes : List Hole
  deriving Repr, DecidableEq

/-- The form of a success: a document may leave out any of its three members. -/
def Outcome.record : Record Outcome Outcome where
  name := "SuccessWire"
  start := ⟨none, [], []⟩
  fields :=
    [ { name := "env"
        expected := "u64"
        defaulted := false
        store := fun v s => (v.asOptional Value.asUnsigned64).map fun x => { s with env := x } },
      { name := "messages"
        expected := "a sequence"
        defaulted := true
        store := fun v s => (Diagnostic.listOfJson v).map fun x => { s with messages := x } },
      { name := "sorries"
        expected := "a sequence"
        defaulted := true
        store := fun v s => (Hole.listOfJson v).map fun x => { s with holes := x } } ]
  finish := .ok

/-! ## Responses -/

/-- The engine's answer to a command, with the document it was read from. -/
inductive Response where
  /-- The command was elaborated; `env` is the environment behind it, if there is a new one. -/
  | success (output : String) (raw : Value) (env : Option Nat)
  | error (message : String) (raw : Value)
  deriving Repr

/-- The lines that summarise a success: every message text, then every goal left open. -/
def summary (messages : List Diagnostic) (holes : List Hole) : String :=
  String.join ((messages.filterMap (·.text)).map (· ++ "\n")) ++
    String.join ((holes.filterMap (·.goal)).map fun g => "Goal: " ++ g ++ "\n")

namespace Response

/-- The text of an error member: a string as it is, anything else as JSON. -/
def errorText : Value → String
  | .string s => s
  | v => v.compact

def ofMembers (members : Json.Members) : Except ShapeError Response :=
  match members.get? "error" with
  | some e => .ok (.error (errorText e) (.object members))
  | none =>
    (Outcome.record.ofMembers members).map fun o =>
      .success (summary o.messages o.holes) (.object members) o.env

def decode (document : String) : Except EngineError Response :=
  let text := Text.bytesOf document
  match Json.parse text with
  | .error failure =>
    .error (.badDocument ("Invalid JSON: " ++ failure.message text ++ ". Raw: " ++ document))
  | .ok (.object members) =>
    match ofMembers members with
    | .ok response => .ok response
    | .error e =>
      .error (.badDocument
        ("Failed to parse REPL response: " ++ e.message ++ ". Raw: " ++ document))
  | .ok _ => .error (.badDocument ("Expected a JSON object. Raw: " ++ document))

def failed (message : String) : Response :=
  .error message .null

def isSuccess : Response → Bool
  | .success .. => true
  | .error .. => false

def env : Response → Option Nat
  | .success _ _ env => env
  | .error .. => none

def raw : Response → Value
  | .success _ raw _ => raw
  | .error _ raw => raw

/-- A member of the document read as a list, empty if it is missing or malformed. -/
def listMember {α : Type} (read : Value → Except ShapeError (List α)) (key : String)
    (r : Response) : List α :=
  match (r.raw.get? key).map read with
  | some (.ok items) => items
  | _ => []

def messages (r : Response) : List Diagnostic :=
  r.listMember Diagnostic.listOfJson "messages"

def holes (r : Response) : List Hole :=
  r.listMember Hole.listOfJson "sorries"

def goalTexts (r : Response) : List String :=
  r.holes.filterMap (·.goal)

/-- The goals left open, numbered from zero. -/
def goals (r : Response) : List Goal :=
  r.goalTexts.zipIdx.map fun (text, id) => Goal.parse id text

def hasErrors (r : Response) : Bool :=
  r.messages.any (·.severity == .error)

end Response

end NotebookKernel
