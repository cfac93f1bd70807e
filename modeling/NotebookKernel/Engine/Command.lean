import NotebookKernel.Json.Printer

/-! # Commands

A command asks the engine to elaborate Lean code, in the environment of an earlier command
or in the default one.  It travels as a JSON document on a single line.
-/

namespace NotebookKernel

structure Command where
  code : String
  /-- The environment to run in; `none` is the engine's default. -/
  env : Option Nat
  deriving Repr, DecidableEq

/-- The document of a command; without an environment it has no such member. -/
def Command.toJson (c : Command) : Json.Value :=
  .object (("cmd", .string c.code) :: (c.env.map fun n => ("env", Json.Value.integer n)).toList)

def Command.document (c : Command) : String :=
  c.toJson.compact

end NotebookKernel
