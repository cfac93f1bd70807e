import NotebookKernel.Toml.Quoted

/-! # Reading TOML

`parse` gives the table of a document, or nothing if the document is ill formed.  The depth
argument of `value` bounds how many arrays and braces may be open inside one another.
-/

namespace NotebookKernel.Toml

abbrev Reader (α : Type) := List Char → Option (α × List Char)

/-! ## Blanks, comments and lines -/

def skipBlanks (text : List Char) : List Char :=
  text.dropWhile isBlank

/-- Drop blanks, lines and comments; a character that cannot stand in a comment ends it. -/
def skipLines (inComment : Bool) : List Char → List Char
  | [] => []
  | '\n' :: rest => skipLines false rest
  | '\r' :: '\n' :: rest => skipLines false rest
  | c :: rest =>
    if inComment then if isPrintable c then skipLines true rest else c :: rest
    else if isBlank c then skipLines false rest
    else if c = '#' then skipLines true rest
    else c :: rest

def endOfLine (text : List Char) : Option (List Char) :=
  let text := skipBlanks text
  let text := if text.head? = some '#' then text.dropWhile isPrintable else text
  if text.isEmpty || startsLine text then some (dropNewline text) else none

/-! ## Keys -/

def isBare (c : Char) : Bool :=
  c.isAlphanum || c = '-' || c = '_'

def name : Reader String
  | '"' :: rest => quotedFrom [] rest
  | '\'' :: rest => literalFrom [] rest
  | text =>
    let bare := text.takeWhile isBare
    if bare.isEmpty then none else some (String.ofList bare, text.drop bare.length)

/-- Names with dots between them, and the blanks behind the last one. -/
def names : Nat → Reader (List String)
  | 0, _ => none
  | rounds + 1, text =>
    match name (skipBlanks text) with
    | none => none
    | some (n, rest) =>
      match skipBlanks rest with
      | '.' :: rest =>
        match names rounds rest with
        | none => none
        | some (ns, rest) => some (n :: ns, rest)
      | rest => some ([n], rest)

def greatestKey : Nat := 79

def key : Reader Key := fun text =>
  match names greatestKey text with
  | none => none
  | some (ns, rest) => ns.getLast?.map fun last => (⟨ns.dropLast, last⟩, rest)

def pair (value : Reader Value) : Reader (Key × Value) := fun text =>
  match key text with
  | some (k, '=' :: rest) => (value (skipBlanks rest)).map fun (v, rest) => ((k, v), rest)
  | _ => none

/-! ## Values -/

/-- The items of an array up to its end.  Every item takes a character, so the length of the
    text bounds the number of rounds.  A comma may follow the last item. -/
def items (value : Reader Value) : Nat → Reader (List Value)
  | 0, _ => none
  | rounds + 1, text =>
    match skipLines false text with
    | ']' :: rest => some ([], rest)
    | text =>
      match value text with
      | none => none
      | some (v, rest) =>
        match skipLines false rest with
        | ',' :: rest => (items value rounds rest).map fun (vs, rest) => (v :: vs, rest)
        | ']' :: rest => some ([v], rest)
        | _ => none

def pairs (value : Reader Value) : Nat → Reader (List (Key × Value))
  | 0, _ => none
  | rounds + 1, text =>
    match pair value text with
    | none => none
    | some (p, rest) =>
      match skipBlanks rest with
      | ',' :: rest => (pairs value rounds rest).map fun (ps, rest) => (p :: ps, rest)
      | '}' :: rest => some ([p], rest)
      | _ => none

def braces (value : Reader Value) : Reader Value := fun text =>
  match skipBlanks text with
  | '}' :: rest => some (.table .braces [], rest)
  | text =>
    match pairs value (text.length + 1) text with
    | none => none
    | some (ps, rest) => (Table.ofPairs ps).map fun t => (.table .braces t, rest)

def plain : Reader Value := fun text =>
  match quotedString text with
  | some (s, rest) => some (.string s, rest)
  | none =>
    let token := tokenSpan text
    (scalar token).map fun v => (v, text.drop token.length)

/-- A value in which at most `depth` arrays and braces are open at a time. -/
def value : Nat → Reader Value
  | 0, text => if text.head? = some '[' || text.head? = some '{' then none else plain text
  | depth + 1, text =>
    match text with
    | '[' :: rest =>
      (items (value depth) (rest.length + 1) rest).map fun (vs, rest) => (.array vs, rest)
    | '{' :: rest => braces (value depth) rest
    | _ => plain text

def greatestDepth : Nat := 79

/-! ## Documents -/

def statement : Reader Statement := fun text =>
  let ended := fun (s : Statement) rest => (endOfLine rest).map fun rest => (s, rest)
  match text with
  | '[' :: '[' :: rest =>
    match key rest with
    | some (k, ']' :: ']' :: rest) => ended (.nextHeader k) rest
    | _ => none
  | '[' :: rest =>
    match key rest with
    | some (k, ']' :: rest) => ended (.header k) rest
    | _ => none
  | _ =>
    match pair (value greatestDepth) text with
    | some ((k, v), rest) => ended (.pair k v) rest
    | none => none

/-- The statements of a document, with the length of the text as bound. -/
def statements : Nat → List Char → Option (List Statement)
  | 0, _ => none
  | rounds + 1, text =>
    match skipLines false text with
    | [] => some []
    | text =>
      match statement text with
      | none => none
      | some (s, rest) => (statements rounds rest).map (s :: ·)

/-- Drop the mark that may stand in front of a document. -/
def dropMark : List Char → List Char
  | '\uFEFF' :: rest => rest
  | text => text

def parse (document : String) : Option Table :=
  let text := dropMark document.toList
  (statements (text.length + 1) text).bind Table.ofStatements

end NotebookKernel.Toml
