import Tribase.Log.Basic
import Tribase.Pattern.Compile

/-!
# Log filters

A filter is a list of directives, each a threshold for one part of the program or for all of them.
For an entry the directive with the longest matching name decides, and of equal ones the last.

`LogFilter.ofSpec` reads a filter from a text such as `warn,part=debug`: directives between commas,
each a threshold, the name of a part, or both with `=` between them. A name alone admits everything.
After a slash a pattern may follow that the messages have to hold.
-/

namespace Tribase

/-- A threshold for the parts whose name starts as given, or for all of them. -/
structure Directive where
  target? : Option String
  threshold : Threshold
deriving DecidableEq, Repr

namespace Directive

/-- Whether the directive is about a part. -/
def covers (d : Directive) (part : String) : Bool :=
  match d.target? with
  | none => true
  | some name => name.toList.isPrefixOf part.toList

/-- The bytes of the name; none for a directive about all parts. -/
def weight (d : Directive) : Nat :=
  (d.target?.map String.utf8ByteSize).getD 0

end Directive

/-- Which log entries are kept. -/
structure LogFilter where
  directives : List Directive
  /-- What a message has to hold. -/
  pattern? : Option Pattern.Matcher := none
deriving DecidableEq, Repr

namespace LogFilter

/-! ## 1. Which entries are kept -/

/-- The later of two directives, unless the earlier one has the longer name. -/
def stronger (a : Option Directive) (b : Directive) : Option Directive :=
  match a with
  | none => some b
  | some a => if b.weight < a.weight then some a else some b

/-- The directive that decides about a part. -/
def deciding? (f : LogFilter) (part : String) : Option Directive :=
  (f.directives.filter (·.covers part)).foldl stronger none

/-- Whether an entry is kept. -/
def admits (f : LogFilter) (e : Entry) : Bool :=
  let byLevel :=
    match f.deciding? e.origin.name with
    | some d => d.threshold.admits e.level
    | none => false
  let byText :=
    match f.pattern? with
    | some pattern => pattern.accepts e.message
    | none => true
  byLevel && byText

/-! ## 2. Filters as text -/

/-- The directive of one part of the text, or the piece of it that is no threshold. -/
def readDirective (part : String) : Except String Directive :=
  match part.splitOn "=" with
  | [single] =>
    match Threshold.ofName? single with
    | some t => .ok ⟨none, t⟩
    | none => .ok ⟨some single, .upTo .trace⟩
  | [name, level] =>
    let level := Text.trim level
    if level.isEmpty then .ok ⟨some name, .upTo .trace⟩
    else
      match Threshold.ofName? level with
      | some t => .ok ⟨some name, t⟩
      | none => .error level
  | _ => .error part

/-- The directives with one more, which replaces one of the same name. -/
def insert (d : Directive) : List Directive → List Directive
  | [] => [d]
  | e :: es => if e.target? = d.target? then d :: es else e :: insert d es

/-- The warning about a piece of the text that is not understood. -/
def warning (piece : String) : String :=
  s!"warning: invalid logging spec '{piece}', ignoring it"

/-- The directives between commas, and warnings about those that are not understood. -/
def readDirectives (text : String) : List Directive × List String :=
  let parts := ((text.splitOn ",").map Text.trim).filter (!·.isEmpty)
  parts.foldl
    (fun (ds, ws) part =>
      match readDirective part with
      | .ok d => (insert d ds, ws)
      | .error piece => (ds, ws ++ [warning piece]))
    ([], [])

/-- The pattern of a text, or a warning about it. -/
def readPattern (text : String) : Option Pattern.Matcher × List String :=
  match Pattern.Matcher.ofText text with
  | .ok m => (some m, [])
  | .error e => (none, ["warning: invalid regex filter - " ++ e.message text])

/-- The filter of the directives; without any, errors are kept. -/
def ofDirectives (ds : List Directive) (pattern? : Option Pattern.Matcher) : LogFilter :=
  if ds.isEmpty then ⟨[⟨none, .upTo .error⟩], pattern?⟩ else ⟨ds, pattern?⟩

/-- Reads a filter, with warnings about what is not understood. -/
def ofSpec (spec : String) : LogFilter × List String :=
  match spec.splitOn "/" with
  | [text] =>
    let (ds, ws) := readDirectives text
    (ofDirectives ds none, ws)
  | [text, pattern] =>
    let (ds, ws) := readDirectives text
    let (pattern?, more) := readPattern pattern
    (ofDirectives ds pattern?, ws ++ more)
  | _ => (ofDirectives [] none, [warning spec ++ " (too many '/'s)"])

end LogFilter

end Tribase
