import Tribase.Sheet.Basic

/-!
# The text of a sheet

Five columns, all right aligned, under a header. A column is three characters wider than its widest
cell, where the width of a cell is taken in UTF-8 bytes; the filling is counted in characters. A
column may have any width. A formatter that keeps widths in sixteen bits would stop at 65535
characters; nothing here does.

* `Sheet.render` hands the text to any writer, and stops where a write fails;
* `Sheet.text` is what it writes to a string;
* `Sink` is a writer with limited room: it takes what still fits and fails from then on.
-/

namespace Tribase

/-! ## 1. Columns -/

/-- The texts of the header. -/
def header : List String :=
  ["FORMULA", "|", "DECIMAL", "HEXADECIMAL", "BINARY"]

/-- The characters between the widest cell of a column and the column before it. -/
def columnGap : Nat := 3

/-- The texts of a row. -/
def Row.columns (r : Row) : List String :=
  [r.label, "|", r.cells.dec, r.cells.hex, r.cells.bin]

/-- The texts of all rows, the header first. -/
def Sheet.grid (s : Sheet) : List (List String) :=
  header :: s.rows.map Row.columns

/-- The greatest number of UTF-8 bytes in each column. -/
def Sheet.widths (s : Sheet) : List Nat :=
  s.rows.foldl (fun ws r => List.zipWith (fun w cell => max w cell.utf8ByteSize) ws r.columns)
    (header.map String.utf8ByteSize)

/-! ## 2. Writing -/

section Writing

variable {m : Type → Type} [Monad m]

/-- Writes a cell: the blanks in front of it one by one, and then its text. -/
def renderCell (write : String → m Unit) (width : Nat) (cell : String) : m Unit := do
  (List.replicate (width - cell.length) " ").forM write
  write cell

/-- Writes a line. -/
def renderLine (write : String → m Unit) (widths : List Nat) (cells : List String) : m Unit := do
  (widths.zip cells).forM fun (w, cell) => renderCell write (w + columnGap) cell
  write "\n"

/-- Writes the sheet, line by line. Where a write fails, so does the whole. -/
def Sheet.render (write : String → m Unit) (s : Sheet) : m Unit :=
  s.grid.forM (renderLine write s.widths)

end Writing

/-- The whole text: what is written to a string, which takes everything. -/
def Sheet.text (s : Sheet) : String :=
  ((s.render fun text => modify (· ++ text) : StateM String Unit).run "").2

/-! ## 3. Writing with limited room -/

/-- A writer with limited room. -/
structure Sink where
  /-- How many characters it still takes; nothing once it has failed. -/
  room : Option Nat
  taken : String := ""
deriving DecidableEq, Repr

namespace Sink

/-- Takes what fits of a text. Where that is not all of it, there is no room ever after. -/
def take (s : Sink) (text : String) : Sink :=
  match s.room with
  | none => s
  | some room =>
    { room := if text.length ≤ room then some (room - text.length) else none
      taken := s.taken ++ String.ofList (text.toList.take room) }

/-- Takes what fits of a text, and fails where that is not all of it. -/
def write (text : String) : EStateM Unit Sink Unit := do
  modify (·.take text)
  if (← get).room.isNone then throw ()

end Sink

/-- Writes the sheet into `room` characters: what was written, and whether that was all. -/
def Sheet.writeLimited (s : Sheet) (room : Nat) : String × Bool :=
  match (s.render Sink.write).run { room := some room } with
  | .ok _ sink => (sink.taken, true)
  | .error _ sink => (sink.taken, false)

end Tribase
