import NotebookKernel.Json.Skip

/-! # Records

A record is a fixed set of named fields that fill a structure.  It can be written as an
object, in any order and among other members, or as an array of its fields in their order.
`Record.decode` takes it from a value, `Record.read` straight from a text.
-/

namespace NotebookKernel.Json

open NotebookKernel.Text (Bytes)

/-! ## Scalar fields -/

def Value.refuse {α : Type} (v : Value) (expected : String) : Except ShapeError α :=
  .error (.invalidType v.found expected)

def Value.asString (expected : String) : Value → Except ShapeError String
  | .string s => .ok s
  | v => v.refuse expected

def Value.asBool : Value → Except ShapeError Bool
  | .bool b => .ok b
  | v => v.refuse "a boolean"

def Value.asUnsigned (bound : Nat) (expected : String) : Value → Except ShapeError Nat
  | .integer i =>
    if 0 ≤ i && i ≤ bound then .ok i.toNat else .error (.invalidValue (.integer i) expected)
  | v => v.refuse expected

def Value.asUnsigned64 : Value → Except ShapeError Nat :=
  Value.asUnsigned greatestUnsigned "u64"

def Value.asOptional {α : Type} (read : Value → Except ShapeError α) :
    Value → Except ShapeError (Option α)
  | .null => .ok none
  | v => (read v).map some

def Value.asList {α : Type} (read : Value → Except ShapeError α) :
    Value → Except ShapeError (List α)
  | .array vs => vs.mapM read
  | v => v.refuse "a sequence"

/-- Read a scalar from a text; an array or an object is refused where it begins. -/
def readScalar (expected : String) : Reader Value := fun text =>
  match skipSpaces text with
  | [] => failPeek .endOfValue []
  | b :: rest =>
    if b = 0x5B then failShape (.invalidType .sequence expected) (b :: rest)
    else if b = 0x7B then failShape (.invalidType .map expected) (b :: rest)
    else scalar (b :: rest)

/-! ## Records -/

structure RecordField (σ : Type) where
  name : String
  expected : String
  /-- Whether the field may be left out at the end of an array. -/
  defaulted : Bool
  /-- Read the value of the field into the record. -/
  store : Value → σ → Except ShapeError σ

/-- A record: its name in messages, the state before any field is read, its fields in order,
    and the final check for the fields of an object that are missing. -/
structure Record (σ α : Type) where
  name : String
  start : σ
  fields : List (RecordField σ)
  finish : σ → Except ShapeError α

namespace Record

variable {σ α : Type}

def field? (r : Record σ α) (name : String) : Option (RecordField σ) :=
  r.fields.find? (·.name == name)

def expected (r : Record σ α) : String :=
  "struct " ++ r.name

def expectedLength (r : Record σ α) : String :=
  r.expected ++ " with " ++ toString r.fields.length ++ " elements"

/-- Fill in the members of an object one after the other; `seen` holds the names of the
    fields already filled in. -/
def storeMembers (r : Record σ α) (seen : List String) (s : σ) : Members → Except ShapeError σ
  | [] => .ok s
  | (key, v) :: rest =>
    match r.field? key with
    | none => storeMembers r seen s rest
    | some f =>
      if seen.contains key then .error (.duplicateField key)
      else
        match f.store v s with
        | .error e => .error e
        | .ok s => storeMembers r (key :: seen) s rest

/-- Fill in the items of an array in the order of the fields; `read` counts the items before
    them.  The result holds the items left over. -/
def storeItems (expectedLength : String) (read : Nat) :
    List (RecordField σ) → σ → List Value → Except ShapeError (σ × List Value)
  | [], s, vs => .ok (s, vs)
  | f :: fs, s, [] =>
    if f.defaulted then storeItems expectedLength (read + 1) fs s []
    else .error (.invalidLength read expectedLength)
  | f :: fs, s, v :: vs =>
    match f.store v s with
    | .error e => .error e
    | .ok s => storeItems expectedLength (read + 1) fs s vs

def ofMembers (r : Record σ α) (ms : Members) : Except ShapeError α :=
  match r.storeMembers [] r.start ms with
  | .error e => .error e
  | .ok s => r.finish s

/-- The record that an array describes; it may hold no more items than there are fields. -/
def ofItems (r : Record σ α) (vs : List Value) : Except ShapeError α :=
  match storeItems r.expectedLength 0 r.fields r.start vs with
  | .error e => .error e
  | .ok (s, left) =>
    match r.finish s with
    | .error e => .error e
    | .ok a =>
      if left.isEmpty then .ok a
      else .error (.invalidLength vs.length "fewer elements in array")

def decode (r : Record σ α) : Value → Except ShapeError α
  | .object ms => r.ofMembers ms
  | .array vs => r.ofItems vs
  | v => v.refuse r.expected

/-! ## Records in a text -/

def readField (f : RecordField σ) (s : σ) : Reader σ := fun text =>
  match readScalar f.expected text with
  | .error e => .error e
  | .ok (v, rest) =>
    match f.store v s with
    | .error e => failShape e rest
    | .ok s => .ok (s, rest)

/-- The text behind which a failed object is reported: behind its end if that comes next,
    else in front of the next byte that is no space. -/
def afterFailedObject (text : Bytes) : Bytes :=
  match skipSpaces text with
  | 0x7D :: rest => rest
  | text => text

def afterFailedArray (text : Bytes) : Bytes :=
  match skipSpaces text with
  | 0x5D :: rest => rest
  | 0x2C :: rest => skipSpaces rest
  | text => text

def readMembers (r : Record σ α) : Nat → Bool → List String → σ → Reader σ
  | 0, _, _, _, text => failPeek .endOfObject text
  | rounds + 1, first, seen, s, text =>
    match nextKey first text with
    | .error e => .error e
    | .ok (none, rest) => .ok (s, rest)
    | .ok (some key, rest) =>
      match r.field? key with
      | none =>
        match (colon rest).bind skipValue with
        | .error e => .error e
        | .ok rest => readMembers r rounds false seen s rest
      | some f =>
        -- a repeated key is refused before its value is read
        if seen.contains key then failShape (.duplicateField key) (afterFailedObject rest)
        else
          match colon rest with
          | .error e => .error e
          | .ok rest =>
            match readField f s rest with
            | .error e => .error e
            | .ok (s, rest) => readMembers r rounds false (key :: seen) s rest

def readObject (r : Record σ α) : Reader α := fun text =>
  match r.readMembers (text.length + 1) true [] r.start text with
  | .error e => .error e
  | .ok (s, rest) =>
    match r.finish s with
    | .error e => failShape e rest
    | .ok a => .ok (a, rest)

/-- Read the items of an array in the order of the fields.  The result says whether the end
    of the array has been consumed. -/
def readItems (expectedLength : String) (read : Nat) :
    List (RecordField σ) → σ → Bytes → Except Failure (σ × Bool × Bytes)
  | [], s, text => .ok (s, false, text)
  | f :: fs, s, text =>
    match nextItem (read == 0) text with
    | .error e => .error e
    | .ok (.closed rest) =>
      if (f :: fs).all (·.defaulted) then .ok (s, true, rest)
      else
        -- fields with a default count as read up to the first one that is really missing
        let present := ((f :: fs).takeWhile (·.defaulted)).length
        failShape (.invalidLength (read + present) expectedLength) rest
    | .ok (.more text) =>
      match readField f s text with
      | .error e => .error e
      | .ok (s, rest) => readItems expectedLength (read + 1) fs s rest

/-- Consume the end of an array all of whose items have been read. -/
def endOfArray (text : Bytes) : Except Failure Bytes :=
  match skipSpaces text with
  | [] => failPeek .endOfList []
  | b :: rest =>
    if b = 0x5D then .ok rest
    else if b = 0x2C then
      match skipSpaces rest with
      | 0x5D :: more => failPeek .trailingComma (0x5D :: more)
      | more => failPeek .trailingCharacters more
    else failPeek .trailingCharacters (b :: rest)

def readArray (r : Record σ α) : Reader α := fun text =>
  match readItems r.expectedLength 0 r.fields r.start text with
  | .error e => .error e
  | .ok (s, closed, rest) =>
    match r.finish s with
    | .error e => failShape e (if closed then rest else afterFailedArray rest)
    | .ok a => if closed then .ok (a, rest) else (endOfArray rest).map fun rest => (a, rest)

def read (r : Record σ α) : Reader α := fun text =>
  match skipSpaces text with
  | [] => failPeek .endOfValue []
  | b :: rest =>
    if b = 0x7B then r.readObject rest
    else if b = 0x5B then r.readArray rest
    else
      match scalar (b :: rest) with
      | .error e => .error e
      | .ok (v, rest) => failShape (.invalidType v.found r.expected) rest

def readDocument (r : Record σ α) (text : Bytes) : Except Failure α :=
  match r.read text with
  | .error e => .error e
  | .ok result => endOfDocument result

end Record

end NotebookKernel.Json
