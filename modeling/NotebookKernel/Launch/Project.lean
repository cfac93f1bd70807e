import NotebookKernel.Files.Basic

/-! # Projects

A REPL belongs to a project, which is a directory with a lakefile.  An environment
variable can say where that directory is.
-/

namespace NotebookKernel.Project

def lakefiles : List String := ["lakefile.lean", "lakefile.toml"]

def hasLakefile (files : Files) (directory : String) : Bool :=
  lakefiles.any fun name => files.isFile (Path.join directory name)

def variableName : String := "LEAN_REPL_PROJECT"

/-- The directory that the environment names, if it is a project. -/
def discover (files : Files) (named : Option String) : Option String :=
  named.filter (hasLakefile files)

end NotebookKernel.Project
