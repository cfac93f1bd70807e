import NotebookKernel.Decimal.Binary64

/-! # JSON values

A `Value` keeps the members of an object as they are written, in order and with repeated
keys.  `Value.canonical` gives the meaning of a whole document: the keys of every object
ascend, and of members with one key the last one counts.
-/

namespace NotebookKernel.Json

open NotebookKernel.Decimal (Binary64)

/-- A JSON value.  Whole numbers within 64 bits are integers, all others doubles. -/
inductive Value where
  | null
  | bool (b : Bool)
  | integer (i : Int)
  | double (x : Binary64)
  | string (s : String)
  | array (items : List Value)
  | object (members : List (String × Value))
  deriving Repr, Inhabited

abbrev Members := List (String × Value)

/-- The value of the first member with the given key. -/
def Members.get? (members : Members) (key : String) : Option Value :=
  members.lookup key

def Value.get? : Value → String → Option Value
  | .object members, key => Members.get? members key
  | _, _ => none

/-! ## Canonical form -/

/-- Add a member to ascending members of which any with the same key takes precedence. -/
def addMember (key : String) (v : Value) : Members → Members
  | [] => [(key, v)]
  | (k, w) :: rest =>
    if key < k then (key, v) :: (k, w) :: rest
    else if key = k then (k, w) :: rest
    else (k, w) :: addMember key v rest

mutual

/-- The value with the keys of every object ascending and without repetition; the last
    member of a key wins. -/
def Value.canonical : Value → Value
  | .array items => .array (canonicalItems items)
  | .object members => .object (canonicalMembers members)
  | .null => .null
  | .bool b => .bool b
  | .integer i => .integer i
  | .double x => .double x
  | .string s => .string s

def canonicalItems : List Value → List Value
  | [] => []
  | v :: rest => v.canonical :: canonicalItems rest

/-- Members in ascending order of their keys, the last one of each key. -/
def canonicalMembers : List (String × Value) → List (String × Value)
  | [] => []
  | (key, v) :: rest => addMember key v.canonical (canonicalMembers rest)

end

end NotebookKernel.Json
