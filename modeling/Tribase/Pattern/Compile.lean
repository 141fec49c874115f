import Tribase.Pattern.Meaning
import Tribase.Pattern.Read
import Tribase.Text.Plain

/-!
# From texts to matchers

`Matcher.ofText` reads a pattern and gives it its meaning, and refuses it if it is faulty, if it
would take too much room, or if it asks for the words of all languages.

`PatternError.notice` shows a faulty pattern, line by line, with carets under what is at fault, and
then the cause. A pattern of several lines is shown between rulers, with the numbers of its lines;
what reaches over several lines has no carets and is described by its ends.
-/

namespace Tribase.Pattern

/-! ## 1. Notices -/

/-- Whether one place lies before another. -/
def Place.isBefore (a b : Place) : Bool :=
  a.line < b.line || (a.line == b.line && a.column < b.column)

/-- Whether one span is to be shown in front of another. -/
def Span.isBefore (a b : Span) : Bool :=
  a.first.isBefore b.first || (a.first == b.first && a.past.isBefore b.past)

namespace PatternError

/-- The spans of a fault, in the order of the pattern. -/
def spans (e : PatternError) : List Span :=
  match e.earlier? with
  | none => [e.span]
  | some earlier => if e.span.isBefore earlier then [e.span, earlier] else [earlier, e.span]

/-- Blanks up to a span and carets under it, after so many columns. -/
def carets (done : Nat) : List Span → List Char
  | [] => []
  | s :: spans =>
    let blanks := s.first.column - 1 - done
    let marks := max 1 (s.past.column - s.first.column)
    List.replicate blanks ' ' ++ List.replicate marks '^' ++ carets (done + blanks + marks) spans

/-- The number of lines that places can be on; a line end at the end starts another one. -/
def lineCount (pattern : String) : Nat :=
  (Text.lines pattern).length + if pattern.toList.getLast? = some '\n' then 1 else 0

/-- The columns for the number of a line: none where there is one line. -/
def numberWidth (pattern : String) : Nat :=
  if lineCount pattern ≤ 1 then 0 else (toString (lineCount pattern)).length

/-- What stands in front of a line: its number, or four blanks. -/
def margin (width n : Nat) : String :=
  let blanks (k : Nat) : String := String.ofList (List.replicate k ' ')
  if width = 0 then blanks 4
  else blanks (width - (toString n).length) ++ s!"{n}: "

/-- The lines of the pattern, each with its carets. -/
def marked (e : PatternError) (pattern : String) : List String :=
  let width := numberWidth pattern
  (Text.lines pattern).zipIdx.flatMap fun (line, i) =>
    let here := e.spans.filter fun s => s.isOneLine && s.first.line == i + 1
    let padding := if width = 0 then 4 else width + 2
    let below := List.replicate padding ' ' ++ carets 0 here
    (margin width (i + 1) ++ line) :: if here.isEmpty then [] else [String.ofList below]

/-- A span that reaches over several lines. -/
def reach (s : Span) : String :=
  s!"on line {s.first.line} (column {s.first.column}) through line {s.past.line} " ++
    s!"(column {s.past.column - 1})"

/-- The lines of the notice. -/
def notice (e : PatternError) (pattern : String) : List String :=
  let shown :=
    if pattern.contains '\n' then
      let ruler := String.ofList (List.replicate 79 '~')
      let wide := e.spans.filter fun s => !s.isOneLine
      ruler :: (e.marked pattern ++ [ruler] ++ wide.map reach)
    else e.marked pattern
  "regex parse error:" :: (shown ++ [s!"error: {e.cause.message}"])

end PatternError

/-! ## 2. Matchers -/

/-- Why a text makes no matcher. -/
inductive Refusal where
  | faulty (e : PatternError)
  | tooLarge
  | wideWords
deriving DecidableEq, Repr

/-- The text shown for the refusal of a pattern. -/
def Refusal.message (pattern : String) : Refusal → String
  | .faulty e => "\n".intercalate (e.notice pattern)
  | .tooLarge => s!"Compiled regex exceeds size limit of {sizeLimit} bytes."
  | .wideWords => "error building NFA"

/-- The matcher of a pattern. -/
def Matcher.ofText (pattern : String) : Except Refusal Matcher :=
  match Node.ofText pattern >>= Node.matcher {} with
  | .error e => .error (.faulty e)
  | .ok (m, _) =>
    if sizeLimit < m.totalSize then .error .tooLarge
    else if m.isWide then .error .wideWords
    else .ok m

end Tribase.Pattern
