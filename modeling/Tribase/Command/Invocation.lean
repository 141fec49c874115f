import Tribase.Command.Arguments
import Tribase.Numeral.Read
import Tribase.Sheet.Layout

/-!
# Invocations

An invocation is a configuration with one or two numbers, or none. It is made from the arguments,
and it makes the sheet.
-/

namespace Tribase

/-! ## 1. The notice about rounding -/

/-- The notice that a width in bits is rounded up to whole bytes, where it is. -/
def roundingNotice (bits : Nat) : Option String :=
  if bits % 8 = 0 then none
  else
    some s!"-b {bits} is not a multiple of 8 and will be rounded up to {(bits + 7) / 8 * 8} bits"

/-- `roundingNotice` for every machine word: the sum in it may be too large for one. -/
def roundingNotice? (bits : Nat) : Except Fault (Option String) :=
  if bits % 8 ≠ 0 ∧ UInt64.size ≤ bits + 7 then .error .addOverflow else .ok (roundingNotice bits)

/-- What is emitted about the arguments. -/
def Arguments.log (a : Arguments) (passes : Entry → Bool) : List Entry :=
  match roundingNotice a.bits with
  | none => []
  | some notice => Entry.emit ⟨.warn, .arguments, notice⟩ passes

/-! ## 2. Numbers -/

/-- A number, and how it was written. -/
structure Operand where
  written : String
  value : Octets
deriving DecidableEq, Repr

/-- Why the numbers of a command line are refused. -/
inductive OperandError where
  /-- There are more than two. -/
  | tooMany (count : Nat)
  /-- One of them is no literal. -/
  | notLiteral (written : String) (e : NumeralError)
deriving DecidableEq, Repr

namespace OperandError

/-- What went wrong, without the cause. -/
def summary : OperandError → String
  | .tooMany count => s!"expected one or two numbers, got {count}"
  | .notLiteral written _ => s!"invalid number `{written}`"

/-- The cause, where there is one behind it. -/
def cause? : OperandError → Option NumeralError
  | .tooMany _ => none
  | .notLiteral _ e => some e

/-- What went wrong and the cause, on one line. -/
def message (e : OperandError) : String :=
  match e.cause? with
  | none => e.summary
  | some cause => s!"{e.summary}: {cause.message}"

end OperandError

/-- A number as it is written. -/
def Operand.read (written : String) : Except OperandError Operand :=
  match Octets.readLiteral written with
  | .ok value => .ok ⟨written, value⟩
  | .error e => .error (.notLiteral written e)

/-- At most two numbers; their count is looked at first, then one after the other. -/
def readOperands (texts : List String) : Except OperandError (List Operand) :=
  if 2 < texts.length then .error (.tooMany texts.length) else texts.mapM Operand.read

/-! ## 3. The sheet -/

/-- A configuration and the numbers to report on. -/
structure Invocation where
  config : Config
  operands : List Operand
deriving DecidableEq, Repr

namespace Invocation

/-- The invocation that the arguments ask for. -/
def ofArguments (a : Arguments) : Except OperandError Invocation :=
  (readOperands a.numbers).map fun operands => ⟨{ bits := a.bits }, operands⟩

/-- The report, where there is something to report on. -/
def step? (i : Invocation) : Option Step :=
  match i.operands with
  | [a] => some (.one a.value a.written)
  | [a, b] => some (.two a.value b.value a.written b.written)
  | _ => none

/-- The sheet, where there is something to show. -/
def sheet? (i : Invocation) : Option Sheet :=
  i.step?.map fun step => (Sheet.new i.config).apply step

/-- What is emitted when the sheet is made; the width is logged also where there is nothing to
    show. -/
def log (i : Invocation) (passes : Entry → Bool) : List Entry :=
  Sheet.log i.config i.step?.toList passes

end Invocation

end Tribase
