import Tribase.Command.Invocation
import Tribase.Log.Filter
import Tribase.Text.Plain

/-!
# Outcomes

What a run of the program leaves behind: an exit code, and the texts on standard output and standard
error.
-/

namespace Tribase

/-- What a run leaves behind. -/
structure Outcome where
  code : Nat
  out : String
  err : String
deriving DecidableEq, Repr

/-- The lines on standard error. -/
def Outcome.errLines (o : Outcome) : List String :=
  Text.lines o.err

/-- Texts as lines, each with a line end after it. -/
def asLines (texts : List String) : String :=
  String.join (texts.map (· ++ "\n"))

/-- The lines of the help text. -/
def helpLines : List String :=
  ["Shows a number, or two numbers and their combinations, in decimal, hexadecimal, and binary",
   "",
   "Usage: jco [OPTIONS] [NUMBERS]...",
   "",
   "Arguments:",
   "  [NUMBERS]...  One or two unsigned integer literals (0x.., 0o.., 0b.., or decimal)",
   "",
   "Options:",
   "  -b, --bits <BITS>  Number of bits to show, rounded up to whole bytes [default: 32]",
   "  -h, --help         Print help",
   "  -V, --version      Print version"]

/-- The help text. -/
def helpText : String :=
  asLines helpLines

/-- The version text. -/
def versionText : String :=
  "jco 0.1.0\n"

/-- The filter used where none is asked for. -/
def defaultFilter : String :=
  "warn"

/-- What is shown about numbers that are refused: what went wrong, and below it the cause. -/
def OperandError.report (e : OperandError) : String :=
  asLines <| s!"Error: {e.summary}" ::
    match e.cause? with
    | none => []
    | some cause => ["", "Caused by:", s!"    {cause.message}"]

/-- A run that reports on numbers. -/
def Arguments.run (a : Arguments) (filter : LogFilter) : Outcome :=
  let logText (entries : List Entry) : String := asLines (entries.map Entry.line)
  match Invocation.ofArguments a with
  | .error e => ⟨1, "", logText (a.log filter.admits) ++ e.report⟩
  | .ok i =>
    let out :=
      match i.sheet? with
      | some sheet => sheet.text
      | none => helpText
    ⟨0, out, logText (a.log filter.admits ++ i.log filter.admits)⟩

/-- A run of the program on a filter for its log, if one is set, and arguments. -/
def run (filter? : Option String) (args : List String) : Outcome :=
  let (filter, warnings) := LogFilter.ofSpec (filter?.getD defaultFilter)
  let outcome : Outcome :=
    match Request.ofArgs args with
    | .error e => ⟨2, "", asLines [e.message]⟩
    | .ok .help => ⟨0, helpText, ""⟩
    | .ok .version => ⟨0, versionText, ""⟩
    | .ok (.report a) => a.run filter
  { outcome with err := asLines warnings ++ outcome.err }

end Tribase
