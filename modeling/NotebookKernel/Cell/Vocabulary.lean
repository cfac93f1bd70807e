import NotebookKernel.Cell.Identifier

/-! # Completion

A vocabulary is a list of words in the order in which they are offered.  Completing at a
cursor offers the words that begin with the identifier there.
-/

namespace NotebookKernel.Cell

structure Vocabulary where
  words : List String
  deriving Repr, DecidableEq

def defaultWords : List String :=
  [ "def", "theorem", "lemma", "example", "axiom", "inductive",
    "structure", "class", "instance", "namespace", "section",
    "variable", "variables", "constant", "import", "open",
    "by", "have", "show", "from", "let", "in",
    "match", "with", "do", "if", "then", "else",
    "fun", "λ", "forall", "∀", "exists", "∃",
    "Nat", "Int", "String", "Bool", "List", "Array", "Option",
    "Nat.add", "Nat.mul", "List.map", "List.filter",
    "simp", "rfl", "intro", "apply", "exact", "cases", "induction",
    "rw", "rewrite", "unfold", "split", "contradiction" ]

/-- Append a word unless it is there already. -/
def addWord (words : List String) (word : String) : List String :=
  if words.contains word then words else words ++ [word]

namespace Vocabulary

def default : Vocabulary :=
  ⟨defaultWords⟩

/-- The default words followed by further ones, each once. -/
def withExtra (extra : List String) : Vocabulary :=
  ⟨extra.foldl addWord defaultWords⟩

/-- The words that begin with the given text. -/
def candidates (v : Vocabulary) (start : List Char) : List String :=
  v.words.filter fun word => start.isPrefixOf word.toList

end Vocabulary

structure Completion where
  words : List String
  start : Nat
  stop : Nat
  deriving Repr, DecidableEq

/-- The words for the identifier at a cursor. -/
def Vocabulary.complete (v : Vocabulary) (cs : List Char) (cursor : Nat) : Completion :=
  let span := Span.at cs cursor
  { words := v.candidates span.text, start := span.start, stop := span.stop }

end NotebookKernel.Cell
