import Tribase.Record.Stored
import Tribase.Sheet.Cells

/-!
# Rows and records as data and text

* Cells and rows are read from a record, by name, or from a list, by place. In a record the values
  are read in the order in which they come, other names are passed over, and missing fields are
  looked for at the end. A list has exactly one element for every field.
* A record is written field by field in one of two forms: braced, with quoted names, or in
  parentheses, with bare names. The texts in these records hold digits, letters and the mark of
  loss, so that they stand between quotes as they are.
-/

namespace Tribase

/-! ## 1. Single values -/

/-- A text. -/
def readText : Datum → Except RecordError String
  | .text s _ => .ok s
  | d => .error (.wrongKind d.found .text)

/-- A truth value. -/
def readFlag : Datum → Except RecordError Bool
  | .flag b => .ok b
  | d => .error (.wrongKind d.found .flag)

/-- A field that comes for the first time. -/
def readOnce {α : Type} (name : String) (known : Option α) (read : Datum → Except RecordError α)
    (d : Datum) : Except RecordError (Option α) :=
  if known.isSome then .error (.duplicateField name) else (read d).map some

/-- A field that has to be there. -/
def require {α : Type} (name : String) : Option α → Except RecordError α
  | some a => .ok a
  | none => .error (.missingField name)

/-- The next element of a list of which `seen` are read. -/
def nextItem {α : Type} (seen : Nat) (whole : Expected) (read : Datum → Except RecordError α) :
    List Datum → Except RecordError (α × List Datum)
  | [] => .error (.wrongLength seen whole)
  | d :: ds => (read d).map (·, ds)

/-- The end of a list of which `seen` elements are read. -/
def endOfItems (seen : Nat) : List Datum → Except RecordError Unit
  | [] => .ok ()
  | rest => .error (.wrongLength (seen + rest.length) .listEnd)

/-! ## 2. Cells -/

/-- The fields found so far. -/
structure CellsDraft where
  dec : Option String := none
  hex : Option String := none
  bin : Option String := none
  lossy : Option Bool := none

namespace CellsDraft

/-- The draft with one more field; other names are passed over. -/
def add (draft : CellsDraft) : String × Datum → Except RecordError CellsDraft
  | ("dec", d) => do return { draft with dec := ← readOnce "dec" draft.dec readText d }
  | ("hex", d) => do return { draft with hex := ← readOnce "hex" draft.hex readText d }
  | ("bin", d) => do return { draft with bin := ← readOnce "bin" draft.bin readText d }
  | ("lossy", d) => do return { draft with lossy := ← readOnce "lossy" draft.lossy readFlag d }
  | _ => .ok draft

/-- The cells, where every field was found. -/
def finish (draft : CellsDraft) : Except RecordError Cells := do
  let dec ← require "dec" draft.dec
  let hex ← require "hex" draft.hex
  let bin ← require "bin" draft.bin
  let lossy ← require "lossy" draft.lossy
  return ⟨dec, hex, bin, lossy⟩

end CellsDraft

/-- The cells that a value holds. -/
def Cells.ofDatum : Datum → Except RecordError Cells
  | .record fields => do
    let draft ← fields.foldlM CellsDraft.add {}
    draft.finish
  | .list items => do
    let (dec, rest) ← nextItem 0 .cellsList readText items
    let (hex, rest) ← nextItem 1 .cellsList readText rest
    let (bin, rest) ← nextItem 2 .cellsList readText rest
    let (lossy, rest) ← nextItem 3 .cellsList readFlag rest
    endOfItems 4 rest
    return ⟨dec, hex, bin, lossy⟩
  | d => .error (.wrongKind d.found .cells)

/-! ## 3. Rows -/

/-- The fields found so far. -/
structure RowDraft where
  label : Option String := none
  cells : Option Cells := none

namespace RowDraft

/-- The draft with one more field; other names are passed over. -/
def add (draft : RowDraft) : String × Datum → Except RecordError RowDraft
  | ("label", d) => do return { draft with label := ← readOnce "label" draft.label readText d }
  | ("cells", d) => do return { draft with cells := ← readOnce "cells" draft.cells Cells.ofDatum d }
  | _ => .ok draft

/-- The row, where every field was found. -/
def finish (draft : RowDraft) : Except RecordError Row := do
  let label ← require "label" draft.label
  let cells ← require "cells" draft.cells
  return ⟨label, cells⟩

end RowDraft

/-- The row that a value holds. -/
def Row.ofDatum : Datum → Except RecordError Row
  | .record fields => do
    let draft ← fields.foldlM RowDraft.add {}
    draft.finish
  | .list items => do
    let (label, rest) ← nextItem 0 .rowList readText items
    let (cells, rest) ← nextItem 1 .rowList Cells.ofDatum rest
    endOfItems 2 rest
    return ⟨label, cells⟩
  | d => .error (.wrongKind d.found .row)

/-! ## 4. Records as text -/

/-- A single value of a record. -/
inductive Scalar where
  | count (n : Nat)
  | text (s : String)
  | flag (b : Bool)
deriving DecidableEq, Repr

/-- The value in either form. -/
def Scalar.write : Scalar → String
  | .count n => toString n
  | .text s => "\"" ++ s ++ "\""
  | .flag b => toString b

/-- The fields of a record, in their order. -/
abbrev Fields := List (String × Scalar)

namespace Fields

/-- The braced form. -/
def braced (fields : Fields) : String :=
  let parts := fields.map fun (name, v) => "\"" ++ name ++ "\":" ++ v.write
  "\x7b" ++ ",".intercalate parts ++ "\x7d"

/-- The form in parentheses. -/
def parenthesised (fields : Fields) : String :=
  let parts := fields.map fun (name, v) => name ++ ":" ++ v.write
  "(" ++ ",".intercalate parts ++ ")"

end Fields

/-- The fields of a stored integer. -/
def Stored.fields (s : Stored) : Fields :=
  [("len", .count s.len), ("bits", .text s.bits)]

/-- The fields of the cells of a row. -/
def Cells.fields (c : Cells) : Fields :=
  [("dec", .text c.dec), ("hex", .text c.hex), ("bin", .text c.bin), ("lossy", .flag c.lossy)]

end Tribase
