/-!
# Log entries

An entry has a level, the part of the program that it comes from, and a message. It is emitted at
once or not at all: whoever keeps the log says which entries pass. A threshold lets those up to a
level pass; with none, the log is off.
-/

namespace Tribase

/-- How much an entry matters, from errors to details. -/
inductive Level where
  | error
  | warn
  | info
  | debug
  | trace
deriving DecidableEq, Repr

namespace Level

/-- The place of a level, the most verbose one last. -/
def rank : Level → Nat
  | .error => 1
  | .warn => 2
  | .info => 3
  | .debug => 4
  | .trace => 5

/-- The name of a level in a log line. -/
def label : Level → String
  | .error => "ERROR"
  | .warn => "WARN"
  | .info => "INFO"
  | .debug => "DEBUG"
  | .trace => "TRACE"

end Level

/-- The part of the program that an entry comes from. -/
inductive Origin where
  /-- The handling of arguments. -/
  | arguments
  /-- The sheet. -/
  | sheet
deriving DecidableEq, Repr

/-- The name of a part in a log line. -/
def Origin.name : Origin → String
  | .arguments => "common"
  | .sheet => "jco_table::table"

/-- A log entry. -/
structure Entry where
  level : Level
  origin : Origin
  message : String
deriving DecidableEq, Repr

/-- The entry as a log line, with the level in five columns. -/
def Entry.line (e : Entry) : String :=
  let label := e.level.label
  let blanks := String.ofList (List.replicate (5 - label.length) ' ')
  s!"[{label}{blanks} {e.origin.name}] {e.message}"

/-- What an entry leaves in a log where `passes` decides: itself, or nothing. -/
def Entry.emit (e : Entry) (passes : Entry → Bool) : List Entry :=
  if passes e then [e] else []

/-- The most verbose level that is kept, or none at all. -/
structure Threshold where
  most? : Option Level
deriving DecidableEq, Repr

namespace Threshold

/-- Nothing is kept. -/
def off : Threshold := ⟨none⟩

/-- Levels up to the given one are kept. -/
def upTo (l : Level) : Threshold := ⟨some l⟩

/-- Whether a level is kept. -/
def admits (t : Threshold) (l : Level) : Bool :=
  match t.most? with
  | none => false
  | some most => l.rank ≤ most.rank

/-- The threshold of a name, in either case of letters. -/
def ofName? (name : String) : Option Threshold :=
  match name.toLower with
  | "off" => some off
  | "error" => some (upTo .error)
  | "warn" => some (upTo .warn)
  | "info" => some (upTo .info)
  | "debug" => some (upTo .debug)
  | "trace" => some (upTo .trace)
  | _ => none

/-- Whether an entry is kept, by its level alone. -/
def passes (t : Threshold) (e : Entry) : Bool :=
  t.admits e.level

end Threshold

end Tribase
