import NotebookKernel.Json.Record

/-! # Requests

A front end sends envelopes: an object with the name of the request under `msg_type` and its
arguments under `content`, or an array of the two.  If the name comes first, the content is
read straight from the text; if the content comes first, it is kept as a value until the
name is known.  Both ways fill the same record, so they agree on what a request is.
-/

namespace NotebookKernel

open NotebookKernel.Json
open NotebookKernel.Text (Bytes)

inductive Request where
  | execute (code : String) (silent : Bool)
  | complete (code : String) (cursor : Nat)
  | inspect (code : String) (cursor : Nat) (detail : Nat)
  | isComplete (code : String)
  | kernelInfo
  | shutdown (restart : Bool)
  deriving Repr, DecidableEq

namespace Request

def isShutdown : Request → Bool
  | .shutdown _ => true
  | _ => false

/-! ## Kinds of requests -/

inductive Kind where
  | execute
  | complete
  | inspect
  | isComplete
  | kernelInfo
  | shutdown
  deriving Repr, DecidableEq

/-- The kinds in the order in which messages list them. -/
def Kind.all : List Kind :=
  [.execute, .complete, .inspect, .isComplete, .kernelInfo, .shutdown]

def Kind.tag : Kind → String
  | .execute => "execute_request"
  | .complete => "complete_request"
  | .inspect => "inspect_request"
  | .isComplete => "is_complete_request"
  | .kernelInfo => "kernel_info_request"
  | .shutdown => "shutdown_request"

def Kind.ofTag (tag : String) : Except ShapeError Kind :=
  match Kind.all.find? (·.tag == tag) with
  | some kind => .ok kind
  | none => .error (.unknownVariant tag (Kind.all.map Kind.tag))

/-! ## Contents -/

structure Arguments where
  code : Option String := none
  cursor : Option Nat := none
  detail : Option Nat := none
  silent : Option Bool := none
  restart : Option Bool := none

def codeField : RecordField Arguments where
  name := "code"
  expected := "a string"
  defaulted := false
  store v a := (v.asString "a string").map fun x => { a with code := some x }

/-- The place of the cursor, in characters. -/
def cursorField : RecordField Arguments where
  name := "cursor_pos"
  expected := "usize"
  defaulted := false
  store v a := (v.asUnsigned greatestUnsigned "usize").map fun x => { a with cursor := some x }

def detailField : RecordField Arguments where
  name := "detail_level"
  expected := "u8"
  defaulted := true
  store v a := (v.asUnsigned 255 "u8").map fun x => { a with detail := some x }

def silentField : RecordField Arguments where
  name := "silent"
  expected := "a boolean"
  defaulted := true
  store v a := v.asBool.map fun x => { a with silent := some x }

def restartField : RecordField Arguments where
  name := "restart"
  expected := "a boolean"
  defaulted := true
  store v a := v.asBool.map fun x => { a with restart := some x }

def required {α : Type} (name : String) : Option α → Except ShapeError α
  | some a => .ok a
  | none => .error (.missingField name)

def Kind.fields : Kind → List (RecordField Arguments)
  | .execute => [codeField, silentField]
  | .complete => [codeField, cursorField]
  | .inspect => [codeField, cursorField, detailField]
  | .isComplete => [codeField]
  | .kernelInfo => []
  | .shutdown => [restartField]

def Kind.build (kind : Kind) (a : Arguments) : Except ShapeError Request :=
  match kind with
  | .execute => do
    let code ← required "code" a.code
    return .execute code (a.silent.getD false)
  | .complete => do
    let code ← required "code" a.code
    let cursor ← required "cursor_pos" a.cursor
    return .complete code cursor
  | .inspect => do
    let code ← required "code" a.code
    let cursor ← required "cursor_pos" a.cursor
    return .inspect code cursor (a.detail.getD 0)
  | .isComplete => do
    let code ← required "code" a.code
    return .isComplete code
  | .kernelInfo => .ok .kernelInfo
  | .shutdown => .ok (.shutdown (a.restart.getD false))

def Kind.label : Kind → String
  | .execute => "Execute"
  | .complete => "Complete"
  | .inspect => "Inspect"
  | .isComplete => "IsComplete"
  | .kernelInfo => "KernelInfo"
  | .shutdown => "Shutdown"

def Kind.record (kind : Kind) : Record Arguments Request where
  name := "variant KernelRequest::" ++ kind.label
  start := {}
  fields := kind.fields
  finish := kind.build

/-- The request that a content describes; it has to be an object. -/
def ofContent (kind : Kind) : Value → Except ShapeError Request
  | .object members => kind.record.ofMembers members
  | v => v.refuse kind.record.expected

/-! ## Envelopes as values -/

/-- The kind that a tag names: a string, or an object whose only key is the name and whose
    value is null. -/
def kindOfJson : Value → Except ShapeError Kind
  | .string tag => Kind.ofTag tag
  | .object [(tag, .null)] => Kind.ofTag tag
  | .object [(_, v)] => v.refuse "unit"
  | v => v.refuse "variant identifier"

/-- The request that an object describes, whatever the order of its members. -/
def ofJson (v : Value) : Except ShapeError Request := do
  let tag ← required "msg_type" (v.get? "msg_type")
  let kind ← kindOfJson tag
  let content ← required "content" (v.get? "content")
  ofContent kind content

/-! ## Reading envelopes -/

def expected : String := "adjacently tagged enum KernelRequest"

def readTag : Reader Kind := fun text =>
  match skipSpaces text with
  | [] => failPeek .endOfValue []
  | b :: rest =>
    if b = 0x22 then readName (b :: rest)
    else if b = 0x7B then readWrapped rest
    else failPeek .expectedValue (b :: rest)
where
  /-- Read a tag that is written as an object, behind its opening brace. -/
  readWrapped : Reader Kind := fun text =>
    match skipSpaces text with
    | [] => failPeek .endOfObject []
    | b :: rest =>
      if b = 0x22 then
        match readName (b :: rest) with
        | .error e => .error e
        | .ok (kind, rest) => (colon rest).bind (readUnit kind)
      else if b = 0x7D then failPeek .expectedValue (b :: rest)
      else failPeek .keyNotString (b :: rest)
  /-- Read the null behind the name of a kind and the end of the object. -/
  readUnit (kind : Kind) : Reader Kind := fun text =>
    match readScalar "unit" text with
    | .error e => .error e
    | .ok (.null, rest) =>
      match skipSpaces rest with
      | [] => failHere .endOfObject []
      | b :: rest => if b = 0x7D then .ok (kind, rest) else failHere .expectedValue (b :: rest)
    | .ok (v, rest) => failShape (.invalidType v.found "unit") rest
  readName : Reader Kind := fun text =>
    match readScalar "variant identifier" text with
    | .error e => .error e
    | .ok (.string tag, rest) =>
      match Kind.ofTag tag with
      | .ok kind => .ok (kind, rest)
      | .error e => failShape e rest
    | .ok (v, rest) => failShape (.invalidType v.found "variant identifier") rest

def readContent (kind : Kind) : Reader Request := fun text =>
  match skipSpaces text with
  | [] => failPeek .endOfValue []
  | b :: rest =>
    if b = 0x7B then kind.record.readObject rest
    else if b = 0x5B then
      failShape (.invalidType .sequence kind.record.expected) (Record.afterFailedArray rest)
    else
      match scalar (b :: rest) with
      | .error e => .error e
      | .ok (v, rest) => failShape (.invalidType v.found kind.record.expected) rest

/-- The two members of an envelope that matter. -/
inductive Part where
  | tag
  | content
  deriving Repr, DecidableEq

def Part.key : Part → String
  | .tag => "msg_type"
  | .content => "content"

/-- Find the next part of an envelope and skip the members before it; `none` at the end. -/
def nextPart : Nat → Bool → Reader (Option Part)
  | 0, _, text => failPeek .endOfObject text
  | rounds + 1, first, text =>
    match nextKey first text with
    | .error e => .error e
    | .ok (none, rest) => .ok (none, rest)
    | .ok (some key, rest) =>
      if key = Part.tag.key then .ok (some .tag, rest)
      else if key = Part.content.key then .ok (some .content, rest)
      else
        match (colon rest).bind skipValue with
        | .error e => .error e
        | .ok rest => nextPart rounds false rest

def findPart (first : Bool) : Reader (Option Part) := fun text =>
  nextPart (text.length + 1) first text

/-- Read an envelope to its end, where neither part may occur again. -/
def readRemainder (request : Request) : Reader Request := fun text =>
  match findPart false text with
  | .error e => .error e
  | .ok (none, rest) => .ok (request, rest)
  | .ok (some part, rest) =>
    failShape (.duplicateField part.key) (Record.afterFailedObject rest)

/-- Read an envelope whose tag comes first, behind the key of the tag. -/
def readTagFirst : Reader Request := fun text =>
  match (colon text).bind readTag with
  | .error e => .error e
  | .ok (kind, rest) =>
    match findPart false rest with
    | .error e => .error e
    | .ok (none, rest) => failShape (.missingField Part.content.key) rest
    | .ok (some .tag, rest) =>
      failShape (.duplicateField Part.tag.key) (Record.afterFailedObject rest)
    | .ok (some .content, rest) =>
      match (colon rest).bind (readContent kind) with
      | .error e => .error e
      | .ok (request, rest) => readRemainder request rest

/-- Read an envelope whose content comes first, behind the key of the content. -/
def readContentFirst : Reader Request := fun text =>
  -- the envelope itself is open, which takes one level
  match (colon text).bind (value (greatestDepth - 1)) with
  | .error e => .error e
  | .ok (content, rest) =>
    match findPart false rest with
    | .error e => .error e
    | .ok (none, rest) => failShape (.missingField Part.tag.key) rest
    | .ok (some .content, rest) =>
      failShape (.duplicateField Part.content.key) (Record.afterFailedObject rest)
    | .ok (some .tag, rest) =>
      match (colon rest).bind readTag with
      | .error e => .error e
      | .ok (kind, rest) =>
        match ofContent kind content with
        | .error e => failShape e (Record.afterFailedObject rest)
        | .ok request => readRemainder request rest

def readObject : Reader Request := fun text =>
  match findPart true text with
  | .error e => .error e
  | .ok (none, rest) => failShape (.missingField Part.tag.key) rest
  | .ok (some .tag, rest) => readTagFirst rest
  | .ok (some .content, rest) => readContentFirst rest

def readArray : Reader Request := fun text =>
  match nextItem true text with
  | .error e => .error e
  | .ok (.closed rest) => failShape (.invalidLength 0 expected) rest
  | .ok (.more text) =>
    -- in an array the name has to be a string
    match readTag.readName text with
    | .error e => .error e
    | .ok (kind, rest) =>
      match nextItem false rest with
      | .error e => .error e
      | .ok (.closed rest) => failShape (.invalidLength 1 expected) rest
      | .ok (.more text) =>
        match readContent kind text with
        | .error e => .error e
        | .ok (request, rest) => (Record.endOfArray rest).map fun rest => (request, rest)

def read : Reader Request := fun text =>
  match skipSpaces text with
  | [] => failPeek .endOfValue []
  | b :: rest =>
    if b = 0x7B then readObject rest
    else if b = 0x5B then readArray rest
    else
      match scalar (b :: rest) with
      | .error e => .error e
      | .ok (v, rest) => failShape (.invalidType v.found expected) rest

def parse (line : Bytes) : Except Failure Request :=
  match read line with
  | .error e => .error e
  | .ok result => endOfDocument result

end Request

end NotebookKernel
