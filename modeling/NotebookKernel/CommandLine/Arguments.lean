import NotebookKernel.Launch.Overrides

/-! # Arguments

The command line names a subcommand, `serve` or `run`, its options and, for `run`, the files
to execute.  An option stands before its value or is joined to it by an equals sign; a value
that stands alone does not begin with a dash.  After `--` every argument is a file.
-/

namespace NotebookKernel.CommandLine

inductive Subcommand where
  | serve
  | run
  deriving Repr, DecidableEq

structure Options where
  config : Option String
  overrides : Overrides
  files : List String
  deriving Repr, DecidableEq

/-- What the arguments ask for. -/
inductive Request where
  | version
  | help (about : Option Subcommand)
  | perform (subcommand : Subcommand) (options : Options)
  | misuse
  deriving Repr, DecidableEq

namespace Options

def none : Options :=
  { config := .none, overrides := .none, files := [] }

def setOnce (old : Option String) (new : String) : Option (Option String) :=
  match old with
  | .none => some (some new)
  | some _ => .none

/-- Set a path that has not been set; it must not be empty. -/
def setPathOnce (old : Option String) (new : String) : Option (Option String) :=
  if new == "" then .none else setOnce old new

/-- Set an option by its name; nothing comes of an unknown or a repeated one. -/
def set (o : Options) (name value : String) : Option Options :=
  match name with
  | "config" => (setPathOnce o.config value).map fun config => { o with config }
  | "project" =>
    (setPathOnce o.overrides.directory value).map fun directory =>
      { o with overrides := { o.overrides with directory } }
  | "repl-path" =>
    (setPathOnce o.overrides.program value).map fun program =>
      { o with overrides := { o.overrides with program } }
  | "header" =>
    (setOnce o.overrides.header value).map fun header =>
      { o with overrides := { o.overrides with header } }
  | _ => .none

def addFile (o : Options) (subcommand : Subcommand) (file : String) : Option Options :=
  if subcommand = .run && file != "" then some { o with files := o.files ++ [file] } else .none

end Options

/-! ## Kinds of arguments -/

inductive Argument where
  /-- Two dashes and nothing else. -/
  | escape
  /-- Two dashes and a name. -/
  | long (name : String)
  /-- Two dashes, a name, an equals sign and a value. -/
  | joined (name value : String)
  /-- One dash and letters. -/
  | short (letters : List Char)
  | plain (text : String)
  deriving Repr, DecidableEq

def Argument.ofString (argument : String) : Argument :=
  match argument.toList with
  | '-' :: '-' :: [] => .escape
  | '-' :: '-' :: rest =>
    let name := rest.takeWhile (· != '=')
    match rest.drop name.length with
    | _ :: value => .joined (String.ofList name) (String.ofList value)
    | [] => .long (String.ofList name)
  | '-' :: c :: rest => .short (c :: rest)
  | _ => .plain argument

/-- The value that an argument can be: not one that begins with a dash, unless that is all. -/
def Argument.value? : Argument → Option String
  | .plain text => some text
  | _ => none

/-! ## Reading -/

/-- Read the arguments of a subcommand; `escaped` says that only files can follow. -/
def readOptions (subcommand : Subcommand) (escaped : Bool) (o : Options) :
    List String → Request
  | [] =>
    if subcommand = .run && o.files.isEmpty then .misuse else .perform subcommand o
  | argument :: rest =>
    if escaped then
      match o.addFile subcommand argument with
      | some o => readOptions subcommand true o rest
      | none => .misuse
    else
      match Argument.ofString argument with
      | .escape => readOptions subcommand true o rest
      | .plain file =>
        match o.addFile subcommand file with
        | some o => readOptions subcommand false o rest
        | none => .misuse
      -- only the first of joined letters is looked at
      | .short letters => if letters.head? = some 'h' then .help (some subcommand) else .misuse
      | .joined name value =>
        match o.set name value with
        | some o => readOptions subcommand false o rest
        | none => .misuse
      | .long name =>
        -- help is given at once, so what follows need not make sense
        if name == "help" then .help (some subcommand)
        else
          match rest with
          | [] => .misuse
          | next :: rest =>
            match (Argument.ofString next).value?.bind (o.set name) with
            | some o => readOptions subcommand false o rest
            | none => .misuse

def readHelp : List String → Request
  | [] => .help none
  | ["serve"] => .help (some .serve)
  | ["run"] => .help (some .run)
  | ["help"] => .help none
  | _ => .misuse

def Request.ofArguments : List String → Request
  | [] => .misuse
  | argument :: rest =>
    match Argument.ofString argument with
    | .plain "serve" => readOptions .serve false .none rest
    | .plain "run" => readOptions .run false .none rest
    | .plain "help" => readHelp rest
    | .long "help" => .help none
    | .long "version" => .version
    | .short ('h' :: _) => .help none
    | .short ('V' :: _) => .version
    | _ => .misuse

end NotebookKernel.CommandLine
