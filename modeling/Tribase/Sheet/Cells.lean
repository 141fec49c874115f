import Tribase.Numeral.Write
import Tribase.Octets.Basic

/-!
# Cells

A value is brought to a declared width and written in three bases.

* `Octets.fit` keeps the low bytes of the width, and says whether that changed the integer;
* `Fit.cells` writes what is kept in decimal, hexadecimal and binary, with a mark in front of each
  where something was lost.
-/

namespace Tribase

/-- A value at a declared width. -/
@[ext] structure Fit where
  /-- The bytes that are kept. -/
  bytes : Octets
  /-- Whether they are another integer than the value. -/
  lossy : Bool
deriving DecidableEq, Repr

/-- The value at a width in bytes: zero bytes come in front as far as the cap allows, then the last
    `width` bytes are kept. -/
def Octets.fit (x : Octets) (width : Nat) (cap : PadCap) : Fit :=
  let padded := if x.length < width then x.pad (width - x.length) cap else x
  let bytes := padded.truncate width
  ⟨bytes, !bytes.equivalent x⟩

/-- The fit as a described value. -/
def Fit.inspect (f : Fit) : String :=
  "Normalized \x7b bytes: " ++ f.bytes.inspect ++ ", lossy: " ++ toString f.lossy ++ " \x7d"

/-- A value in three bases. -/
@[ext] structure Cells where
  dec : String
  hex : String
  bin : String
  /-- Whether the value did not fit. -/
  lossy : Bool
deriving DecidableEq, Repr

/-- The mark in front of the cells of a value that did not fit. -/
def lossMark : Char := '*'

/-- The text with the mark in front of it, where it is due. -/
def markLoss (lossy : Bool) (text : String) : String :=
  if lossy then String.ofList (lossMark :: text.toList) else text

/-- The kept bytes in three bases. -/
def Fit.cells (f : Fit) : Cells where
  dec := markLoss f.lossy f.bytes.decimal
  hex := markLoss f.lossy (f.bytes.hexadecimal f.bytes.length)
  bin := markLoss f.lossy (f.bytes.binary f.bytes.length)
  lossy := f.lossy

/-- The value in three bases, at a width in bytes. -/
def Octets.cells (x : Octets) (width : Nat) (cap : PadCap) : Cells :=
  (x.fit width cap).cells

/-- Cells with a label. -/
@[ext] structure Row where
  label : String
  cells : Cells
deriving DecidableEq, Repr

end Tribase
