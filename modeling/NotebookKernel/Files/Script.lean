import NotebookKernel.Text.Utf8

/-! # Scripts

A file that can be run and is no program of the system is a script.  Its first line begins
with `#!` and names the interpreter that runs it, possibly with one argument, which may hold
blanks.  Only the beginning of the file is looked at, so the line may be cut off; then the
path has to end before that.
-/

namespace NotebookKernel

open NotebookKernel.Text (Bytes)

structure Interpreter where
  path : String
  argument : Option String
  deriving Repr, DecidableEq

namespace Interpreter

def isBlank (b : UInt8) : Bool :=
  b == 0x20 || b == 0x09

/-- The interpreter in a first line, without the mark in front. -/
def ofLine (line : Bytes) : Option Interpreter :=
  let words := line.dropWhile isBlank
  let path := words.takeWhile (!isBlank ·)
  let rest := (words.drop path.length).dropWhile isBlank
  let argument := (rest.reverse.dropWhile isBlank).reverse
  match Text.decode path, Text.decode argument with
  | .ok path, .ok argument =>
    some
      { path := String.ofList path
        argument := if argument.isEmpty then none else some (String.ofList argument) }
  | _, _ => none

/-- How many bytes of a script are looked at. -/
def readBytes : Nat := 256

/-- The interpreter of a script, if its first line names one.  A line also ends at a zero byte
    and at the end of the file, and then the path may be empty. -/
def ofScript? (content : Bytes) : Option Interpreter :=
  match content.take readBytes with
  | 0x23 :: 0x21 :: text =>
    let line := text.takeWhile fun b => b != 0x0A && b != 0
    let words := line.dropWhile isBlank
    match text.drop line.length with
    | b :: _ => if b == 0x0A && words.isEmpty then none else ofLine line
    -- the line may go on behind these bytes, but its path may not
    | [] => if content.length < readBytes || words.any isBlank then ofLine line else none
  | _ => none

end Interpreter

end NotebookKernel
