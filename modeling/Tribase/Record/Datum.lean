import Tribase.Numeral.Basic
import Tribase.Real
import Tribase.Text.Quoted

/-!
# Self-describing data

The values from which records are read, and why a record is refused. A text is either lent, so that
the reader may keep a reference to it, or handed over. `Datum.found` is what a refusal says about a
value: its kind, and the value itself where it is a single one.

`LoadError` is about the content of a stored integer, `RecordError` about the shape of the data it
is read from. Each cause has one text.
-/

namespace Tribase

/-! ## 1. Values -/

/-- A self-describing value. -/
inductive Datum where
  | null
  | flag (b : Bool)
  | integer (n : Int)
  | real (x : Real64)
  | text (s : String) (lent : Bool)
  | list (items : List Datum)
  | record (fields : List (String × Datum))

/-- The kind of a value, with the value where it is a single one. -/
inductive Found where
  | null
  | flag (b : Bool)
  | integer (n : Int)
  | real (x : Real64)
  | text (s : String)
  | list
  | record
deriving DecidableEq, Repr

/-- What a refusal says about the value. -/
def Datum.found : Datum → Found
  | .null => .null
  | .flag b => .flag b
  | .integer n => .integer n
  | .real x => .real x
  | .text s _ => .text s
  | .list _ => .list
  | .record _ => .record

/-- The kind in words. -/
def Found.describe : Found → String
  | .null => "null"
  | .flag b => s!"boolean `{b}`"
  | .integer n => s!"integer `{n}`"
  | .real x => s!"floating point `{x.describe}`"
  | .text s => s!"string {Text.quote s}"
  | .list => "sequence"
  | .record => "map"

/-! ## 2. Why a record is refused -/

/-- Why length and digits do not make an integer. -/
inductive LoadError where
  /-- The digits are no hexadecimal numeral. -/
  | numeral (e : NumeralError)
  /-- The digits need more bytes than the length says. -/
  | tooShort (needed len : Nat)
  /-- The length asks for more leading zero bytes than are granted. -/
  | tooManyZeros (len zeros limit : Nat)
deriving DecidableEq, Repr

/-- The text shown for the cause. -/
def LoadError.message : LoadError → String
  | .numeral e => e.message
  | .tooShort needed len => s!"`bits` needs {needed} bytes but `len` is {len}"
  | .tooManyZeros len zeros limit =>
    s!"`len` of {len} needs {zeros} leading zero bytes, more than the limit of {limit}"

/-- What a reader looked for. -/
inductive Expected where
  /-- The name of a field of a stored integer. -/
  | fieldName
  /-- A count of bytes. -/
  | count
  /-- A text that the reader may keep a reference to. -/
  | lentText
  | text
  | flag
  /-- A stored integer. -/
  | stored
  /-- The cells of a row. -/
  | cells
  /-- The cells of a row, as a list. -/
  | cellsList
  /-- A row. -/
  | row
  /-- A row, as a list. -/
  | rowList
  /-- The end of a list. -/
  | listEnd
deriving DecidableEq, Repr

/-- What was looked for, in words. -/
def Expected.describe : Expected → String
  | .fieldName => "`len` or `bits`"
  | .count => "usize"
  | .lentText => "a borrowed string"
  | .text => "a string"
  | .flag => "a boolean"
  | .stored =>
    "struct ByteVec consisting of a decimal byte length \"len\" and a hexadecimal unsigned integer \"bits\""
  | .cells => "struct Rendered"
  | .cellsList => "struct Rendered with 4 elements"
  | .row => "struct Row"
  | .rowList => "struct Row with 2 elements"
  | .listEnd => "fewer elements in array"

/-- Why a record cannot be read from data. -/
inductive RecordError where
  /-- A value has the wrong kind. -/
  | wrongKind (found : Found) (expected : Expected)
  /-- A value has the right kind and is out of range. -/
  | wrongValue (found : Found) (expected : Expected)
  /-- A list has the wrong number of elements. -/
  | wrongLength (length : Nat) (expected : Expected)
  /-- A name is no field of a stored integer. -/
  | unknownField (name : String)
  /-- A field is given a second time. -/
  | duplicateField (name : String)
  /-- A field is not given. -/
  | missingField (name : String)
  /-- The fields are there, and their content is refused. -/
  | content (e : LoadError)
deriving DecidableEq, Repr

/-- The text shown for the cause. -/
def RecordError.message : RecordError → String
  | .wrongKind found expected => s!"invalid type: {found.describe}, expected {expected.describe}"
  | .wrongValue found expected => s!"invalid value: {found.describe}, expected {expected.describe}"
  | .wrongLength length expected => s!"invalid length {length}, expected {expected.describe}"
  | .unknownField name => s!"unknown field `{name}`, expected {Expected.fieldName.describe}"
  | .duplicateField name => s!"duplicate field `{name}`"
  | .missingField name => s!"missing field `{name}`"
  | .content e => e.message

end Tribase
