import Tribase.Log.Basic
import Tribase.Octets.Arithmetic
import Tribase.Octets.Bits
import Tribase.Sheet.Cells

/-!
# Sheets

A sheet has a declared width and rows. It grows by steps, and a step stands for labelled values: one
value, the report on a number, or the report on two. The rows of a step depend on the step and on
the declared width only.

* `Config.width` is the declared width in bytes, rounded up and capped;
* `Step.lines` are the labelled values of a step, with operands filled up to the width;
* `Sheet.apply` appends their rows, and `Step.log` is what is emitted meanwhile, where `passes`
  decides on each entry.
-/

namespace Tribase

/-! ## 1. The declared width -/

/-- The declared width in bits, and the cap on padding. -/
structure Config where
  bits : Nat := 32
  cap : PadCap := .standard
deriving DecidableEq, Repr

namespace Config

/-- The configuration as a described value. -/
def inspect (c : Config) : String :=
  "TableConfig \x7b bits: " ++ toString c.bits ++ ", pad_limit: " ++ c.cap.inspect ++ " \x7d"

/-- The declared width in bytes: rounded up, and capped. -/
def width (c : Config) : Nat :=
  c.cap.clamp (bytesFor c.bits)

/-- An operand, filled up to the declared width; longer ones stay as they are. -/
def widen (c : Config) (x : Octets) : Octets :=
  if x.length < c.width then x.pad (c.width - x.length) c.cap else x

/-- What is emitted when a sheet is made. -/
def log (c : Config) (passes : Entry → Bool) : List Entry :=
  let capped : Entry :=
    ⟨.warn, .sheet,
      s!"width of {c.bits} bits exceeds the padding limit of {c.cap.describe}, capping it"⟩
  let made : Entry := ⟨.debug, .sheet, s!"new table with a width of {c.width} bytes"⟩
  (if c.cap.isCapped (bytesFor c.bits) then capped.emit passes else []) ++ made.emit passes

end Config

/-! ## 2. Labelled values -/

/-- A value with the label of its row. -/
structure Line where
  label : String
  value : Octets
deriving DecidableEq, Repr

namespace Line

/-- The row of a labelled value. -/
def row (l : Line) (c : Config) : Row :=
  ⟨l.label, l.value.cells c.width c.cap⟩

/-- What is emitted when the row is made: the whole value where it does not fit, and the row. -/
def log (l : Line) (c : Config) (passes : Entry → Bool) : List Entry :=
  let cells := (l.row c).cells
  let lost : Entry :=
    ⟨.debug, .sheet, s!"`{l.label}` = 0x{l.value.hexDigits} does not fit in {c.width} bytes"⟩
  let made : Entry :=
    ⟨.trace, .sheet, s!"row `{l.label}`: {cells.dec} {cells.hex} {cells.bin}"⟩
  (if cells.lossy then lost.emit passes else []) ++ made.emit passes

end Line

/-! ## 3. Reports -/

/-- The report on a number: itself, complement and negative, its counts of bits, and its
    reorderings. -/
def reportOne (a : Octets) (name : String) : List Line :=
  [⟨s!"{name} ", a⟩,
   ⟨s!"~{name} ", a.complement⟩,
   ⟨s!"twos_complement({name})", a.negate⟩,
   ⟨s!"popcount({name})", a.popcount⟩,
   ⟨s!"clz({name})", a.clz⟩,
   ⟨s!"nbits({name})", a.nbits⟩,
   ⟨s!"reverse_bitstring({name})", a.reverseBitstring⟩,
   ⟨s!"reverse_bitorder({name})", a.reverseBits⟩,
   ⟨s!"reverse_byteorder({name})", a.reverseBytes⟩,
   ⟨s!"reverse_nibbleorder({name})", a.swapNibbles⟩]

/-- The report on two numbers: both, and their combinations. -/
def reportTwo (a b : Octets) (nameA nameB : String) : List Line :=
  [⟨s!"      {nameA}", a⟩,
   ⟨s!"      {nameB}", b⟩,
   ⟨s!"{nameA}  + {nameB}", a + b⟩,
   ⟨s!"{nameA}  | {nameB}", a ||| b⟩,
   ⟨s!"{nameA}  & {nameB}", a &&& b⟩,
   ⟨s!"{nameA}  ^ {nameB}", a ^^^ b⟩,
   ⟨s!"{nameA} ^~ {nameB}", a ^^^ b.complement⟩,
   ⟨s!"{nameA}  - {nameB}", a - b⟩,
   ⟨s!"{nameA} &~ {nameB}", a &&& b.complement⟩,
   ⟨s!"{nameB}  - {nameA}", b - a⟩,
   ⟨s!"{nameB} &~ {nameA}", b &&& a.complement⟩]

/-! ## 4. Steps -/

/-- One addition to a sheet. -/
inductive Step where
  /-- A single labelled value. -/
  | add (label : String) (x : Octets)
  /-- The report on a number. -/
  | one (a : Octets) (name : String)
  /-- The report on two numbers. -/
  | two (a b : Octets) (nameA nameB : String)
deriving DecidableEq, Repr

namespace Step

/-- The labelled values of a step, in the order of their rows. -/
def lines (c : Config) : Step → List Line
  | .add label x => [⟨label, x⟩]
  | .one a name => reportOne (c.widen a) name
  | .two a b nameA nameB => reportTwo (c.widen a) (c.widen b) nameA nameB

/-- The rows of a step. -/
def rows (s : Step) (c : Config) : List Row :=
  (s.lines c).map (·.row c)

/-- What is emitted during a step. -/
def log (s : Step) (c : Config) (passes : Entry → Bool) : List Entry :=
  (s.lines c).flatMap (·.log c passes)

end Step

/-- A sheet: its configuration, and its rows in the order of their making. -/
structure Sheet where
  config : Config
  rows : List Row
deriving DecidableEq, Repr

namespace Sheet

/-- A sheet without rows. -/
def new (c : Config) : Sheet :=
  ⟨c, []⟩

/-- The declared width in bytes. -/
def width (s : Sheet) : Nat :=
  s.config.width

/-- The sheet after a step. -/
def apply (s : Sheet) (step : Step) : Sheet :=
  { s with rows := s.rows ++ step.rows s.config }

/-- The sheet after a run of steps on a new one. -/
def ofSteps (c : Config) (steps : List Step) : Sheet :=
  steps.foldl apply (new c)

/-- What is emitted during a run of steps on a new sheet. -/
def log (c : Config) (steps : List Step) (passes : Entry → Bool) : List Entry :=
  c.log passes ++ steps.flatMap (·.log c passes)

@[simp] theorem config_apply (s : Sheet) (step : Step) : (s.apply step).config = s.config := rfl

@[simp] theorem rows_apply (s : Sheet) (step : Step) :
    (s.apply step).rows = s.rows ++ step.rows s.config := rfl

end Sheet

end Tribase
