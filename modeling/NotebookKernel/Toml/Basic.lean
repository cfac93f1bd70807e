/-! # TOML tables

A document is a table that is built up by headers and key-value pairs.  A table remembers
how it came to be written, its `Origin`, because that decides what may still be added to
it: a header may complete a table that is only implied by the headers of tables inside it,
a dotted key may only extend tables that dotted keys have made, and nothing extends a value.
-/

namespace NotebookKernel.Toml

/-- How a table came to be written. -/
inductive Origin where
  /-- As a whole, between braces. -/
  | braces
  /-- By a header of its own. -/
  | header
  /-- By the header of a table inside it. -/
  | implied
  /-- By a dotted key. -/
  | dotted
  deriving Repr, DecidableEq

/-- A value.  Of numbers with a fraction and of dates and times only the kind is kept. -/
inductive Value where
  | string (s : String)
  | integer (i : Int)
  | float
  | bool (b : Bool)
  | moment
  | array (items : List Value)
  | table (origin : Origin) (members : List (String × Value))
  /-- Tables that are written one by one, each by a header. -/
  | tables (earlier : List (List (String × Value))) (last : List (String × Value))
  deriving Repr, Inhabited

abbrev Table := List (String × Value)

/-- A key: the names of the tables on the way and the name of a member. -/
structure Key where
  above : List String
  last : String
  deriving Repr, DecidableEq

inductive Statement where
  | header (key : Key)
  | nextHeader (key : Key)
  | pair (key : Key) (value : Value)
  deriving Repr

/-! ## Changing a table inside a table -/

/-- Whether a path may lead through a table.  Dotted keys only lead through tables that have
    no header of their own. -/
def Origin.admitsPath (step : Origin) : Origin → Bool
  | .braces => false
  | .header => step ≠ .dotted
  | .implied => true
  | .dotted => true

def Table.replace (name : String) (v : Value) : Table → Table
  | [] => []
  | (n, w) :: rest => if n = name then (n, v) :: rest else (n, w) :: Table.replace name v rest

def Table.add (name : String) (v : Value) (t : Table) : Option Table :=
  if (t.lookup name).isSome then none else some (t ++ [(name, v)])

/-- Change the table at the end of a path, which leads through the last table of an array.
    Missing tables on the way are made with the origin `step`; `origin` is that of the table
    in which the path begins. -/
def Table.alter (step : Origin) (change : Origin → Table → Option Table) :
    Origin → List String → Table → Option Table
  | origin, [], t => change origin t
  | _, name :: path, t =>
    match t.lookup name with
    | none => (alter step change step path []).bind fun inner => t.add name (.table step inner)
    | some (.table origin inner) =>
      if step.admitsPath origin then
        (alter step change origin path inner).map fun inner => t.replace name (.table origin inner)
      else none
    | some (.tables earlier last) =>
      (alter step change .header path last).map fun last => t.replace name (.tables earlier last)
    | some _ => none

/-- Add a member under a key.  The table that a dotted key leads to has to be one that dotted
    keys have made. -/
def Table.insert (key : Key) (v : Value) (t : Table) : Option Table :=
  match key.above with
  | [] => t.add key.last v
  | above =>
    t.alter .dotted (fun origin inner =>
      if origin = .dotted then inner.add key.last v else none) .header above

def Table.ofPairs (pairs : List (Key × Value)) : Option Table :=
  pairs.foldlM (fun t (key, v) => t.insert key v) []

/-! ## Documents -/

structure Draft where
  root : Table
  here : List String
  deriving Repr

namespace Draft

/-- Open the table of a header, which may be implied but not be there already. -/
def openTable (d : Draft) (key : Key) : Option Draft :=
  (d.root.alter .implied (fun _ t =>
    match t.lookup key.last with
    | none => t.add key.last (.table .header [])
    | some (.table .implied inner) => some (t.replace key.last (.table .header inner))
    | some _ => none) .header key.above).map
  fun root => { root, here := key.above ++ [key.last] }

def openNext (d : Draft) (key : Key) : Option Draft :=
  (d.root.alter .implied (fun _ t =>
    match t.lookup key.last with
    | none => t.add key.last (.tables [] [])
    | some (.tables earlier last) => some (t.replace key.last (.tables (earlier ++ [last]) []))
    | some _ => none) .header key.above).map
  fun root => { root, here := key.above ++ [key.last] }

def insert (d : Draft) (key : Key) (v : Value) : Option Draft :=
  (d.root.alter .implied (fun _ t => t.insert key v) .header d.here).map
  fun root => { d with root }

def take (d : Draft) : Statement → Option Draft
  | .header key => d.openTable key
  | .nextHeader key => d.openNext key
  | .pair key v => d.insert key v

end Draft

def Table.ofStatements (statements : List Statement) : Option Table :=
  (statements.foldlM Draft.take { root := [], here := [] }).map (·.root)

end NotebookKernel.Toml
