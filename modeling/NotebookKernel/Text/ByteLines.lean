import NotebookKernel.Text.Utf8

/-! # Lines of bytes

A stream of bytes is read line by line.  `cutLines` keeps the newline at the end of every
line, so that the lines joined together are the stream.  While a stream goes on, its last line
may have only begun: `cutWhole` leaves it aside.
-/

namespace NotebookKernel.Text

/-- `cutLines` with the reversed bytes of the line being read. -/
def cutLinesFrom (current : Bytes) : Bytes → List Bytes
  | [] => if current.isEmpty then [] else [current.reverse]
  | b :: rest =>
    if b = 0x0A then (b :: current).reverse :: cutLinesFrom [] rest
    else cutLinesFrom (b :: current) rest

/-- The lines of a stream with their ends; the last one may have none. -/
def cutLines (stream : Bytes) : List Bytes :=
  cutLinesFrom [] stream

/-- `cutWhole` with the reversed bytes of the line being read. -/
def cutWholeFrom (current : Bytes) : Bytes → List Bytes × Bytes
  | [] => ([], current.reverse)
  | b :: rest =>
    if b = 0x0A then
      let (lines, begun) := cutWholeFrom [] rest
      ((b :: current).reverse :: lines, begun)
    else cutWholeFrom (b :: current) rest

/-- The lines of a stream that have their ends, and the line behind them that has only begun. -/
def cutWhole (stream : Bytes) : List Bytes × Bytes :=
  cutWholeFrom [] stream

/-! ## Nothing is lost -/

theorem flatten_cutLinesFrom (current stream : Bytes) :
    (cutLinesFrom current stream).flatten = current.reverse ++ stream := by
  induction stream generalizing current with
  | nil => cases current <;> simp [cutLinesFrom]
  | cons b rest ih =>
    by_cases hb : b = 0x0A
    · simp [cutLinesFrom, hb, ih]
    · simp [cutLinesFrom, hb, ih]

theorem flatten_cutLines (stream : Bytes) : (cutLines stream).flatten = stream := by
  simp [cutLines, flatten_cutLinesFrom]

end NotebookKernel.Text
