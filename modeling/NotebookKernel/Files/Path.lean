/-! # Paths

A path is a text that is cut at its slashes.  Empty parts and `.` name the directory they
stand in; the name of a path is its last part that is neither.
-/

namespace NotebookKernel.Path

/-! ## Parts -/

/-- `parts` with the reversed characters of the part being read. -/
def partsFrom (current : List Char) : List Char → List String
  | [] => [String.ofList current.reverse]
  | c :: rest =>
    if c = '/' then String.ofList current.reverse :: partsFrom [] rest
    else partsFrom (c :: current) rest

/-- What stands between the slashes of a path, empty parts included. -/
def parts (path : String) : List String :=
  partsFrom [] path.toList

def isHere (part : String) : Bool :=
  part == "" || part == "."

def isAbsolute (path : String) : Bool :=
  path.toList.head? == some '/'

def hasSlash (path : String) : Bool :=
  path.toList.contains '/'

def holdsNul (path : String) : Bool :=
  path.toList.contains '\x00'

/-- A path followed by another one; an absolute path stands for itself. -/
def join (path next : String) : String :=
  if isAbsolute next || path == "" then next
  else if path.toList.getLast? == some '/' then path ++ next
  else path ++ "/" ++ next

/-! ## Names -/

/-- The last part that names something, unless that is the parent of a directory. -/
def name? (path : String) : Option String :=
  match ((parts path).filter (!isHere ·)).getLast? with
  | some part => if part == ".." then none else some part
  | none => none

/-- A name without its last extension.  A dot in front belongs to the stem. -/
def stem (name : List Char) : List Char :=
  match name.reverse.dropWhile (· != '.') with
  | _ :: c :: before => (c :: before).reverse
  -- there is no dot, or only one in front
  | _ => name

def stem? (path : String) : Option String :=
  (name? path).map fun name => String.ofList (stem name.toList)

end NotebookKernel.Path
