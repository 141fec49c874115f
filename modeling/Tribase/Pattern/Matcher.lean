import Tribase.Text.CharSet

/-!
# Matchers

A matcher says which stretches of a text it accepts. `Matcher.ends` takes the places at which a
stretch may start, as one mark for each place between characters, and gives the places at which one
ends; a text is accepted if there is a stretch anywhere in it.

A place stays marked under a stretch without characters, and all others lie further on. So a text of
`n` characters shows no difference between `n + 1` rounds and more of them.
-/

namespace Tribase.Pattern

open Text (CharSet)

/-- An edge of words. -/
inductive WordEdge where
  /-- A word starts or ends. -/
  | either
  /-- No word starts or ends. -/
  | neither
  | starts
  | ends
  /-- No word in front. -/
  | startsHalf
  /-- No word behind. -/
  | endsHalf
deriving DecidableEq, Repr

/-- A condition on a place in a text. -/
inductive Look where
  | textStart
  | textEnd
  /-- The start of a line; where `crlf` holds, lines may end in a carriage return. -/
  | lineStart (crlf : Bool)
  | lineEnd (crlf : Bool)
  /-- An edge of words; `wide` ones would need to know the letters of all languages. -/
  | word (edge : WordEdge) (wide : Bool)
deriving DecidableEq, Repr

/-- The characters of words. -/
def wordChars : CharSet :=
  .ofRanges [('0', '9'), ('A', 'Z'), ('_', '_'), ('a', 'z')]

/-- Whether there is a character of a word. -/
def isWord (c : Option Char) : Bool :=
  c.any wordChars.has

namespace Look

/-- Whether an edge of words lies between two places that are in words or not. -/
def edgeHolds (before after : Bool) : WordEdge → Bool
  | .either => before != after
  | .neither => before == after
  | .starts => !before && after
  | .ends => before && !after
  | .startsHalf => !before
  | .endsHalf => !after

/-- Whether the condition holds between two characters, or none at an end. -/
def holds (before after : Option Char) : Look → Bool
  | .textStart => before.isNone
  | .textEnd => after.isNone
  | .lineStart false => before.isNone || before == some '\n'
  | .lineEnd false => after.isNone || after == some '\n'
  | .lineStart true =>
    before.isNone || before == some '\n' || (before == some '\r' && after != some '\n')
  | .lineEnd true =>
    after.isNone || after == some '\r' || (after == some '\n' && before != some '\r')
  | .word edge _ => edgeHolds (isWord before) (isWord after) edge

end Look

/-- What stretches of a text are accepted. -/
inductive Matcher where
  /-- Stretches without characters. -/
  | empty
  /-- One character of a set. -/
  | chars (s : CharSet)
  /-- Stretches without characters where a condition holds. -/
  | look (l : Look)
  /-- One stretch after the other. -/
  | sequence (a b : Matcher)
  /-- One or the other. -/
  | either (a b : Matcher)
  /-- Several stretches, one after the other. -/
  | times (least : Nat) (most? : Option Nat) (m : Matcher)
  /-- A stretch that can be asked for. -/
  | captured (m : Matcher)
deriving DecidableEq, Repr

namespace Matcher

/-! ## 1. Where stretches end -/

/-- One mark for each place between the characters of a text. -/
abbrev Marks := List Bool

/-- The pairs of neighbours around each place. -/
def neighbours (text : List Char) : List (Option Char × Option Char) :=
  (none :: text.map some).zip (text.map some ++ [none])

/-- Applies a step so many times. It stops early where a round changes nothing. -/
def rounds (f : Marks → Marks) : Nat → Marks → Marks
  | 0, marks => marks
  | n + 1, marks =>
    let next := f marks
    if next = marks then marks else rounds f n next

/-- The places that any number of characters of a set lead to, in one walk. `reached` says whether
    the place at hand is one already. -/
def spread (s : CharSet) (reached : Bool) : Marks → List Char → Marks
  | [], _ => []
  | b :: bs, [] => (reached || b) :: bs
  | b :: bs, c :: cs => (reached || b) :: spread s ((reached || b) && s.has c) bs cs

/-- The places at which a stretch ends that starts at a marked one. -/
def ends (text : List Char) : Matcher → Marks → Marks
  | .empty, marks => marks
  | .chars s, marks => false :: marks.zipWith (fun b c => b && s.has c) text
  | .look l, marks =>
    marks.zipWith (fun b (before, after) => b && l.holds before after) (neighbours text)
  | .sequence a b, marks => b.ends text (a.ends text marks)
  | .either a b, marks => (a.ends text marks).zipWith (· || ·) (b.ends text marks)
  | .captured m, marks => m.ends text marks
  | .times least most? m, marks =>
    let bound := text.length + 1
    let once := m.ends text
    let start := rounds once (min least bound) marks
    let further (n : Nat) : Marks :=
      rounds (fun marks => marks.zipWith (· || ·) (once marks)) n start
    match most?, m with
    | none, .chars s => spread s false start text
    | none, _ => further bound
    | some most, _ => further (min (most - least) bound)

/-- Whether a stretch of the text is accepted. -/
def accepts (m : Matcher) (text : String) : Bool :=
  let cs := text.toList
  (m.ends cs (List.replicate (cs.length + 1) true)).any id

/-! ## 2. What a matcher needs -/

/-- Whether the letters of all languages would have to be known. -/
def isWide : Matcher → Bool
  | .empty | .chars _ => false
  | .look (.word _ wide) => wide
  | .look _ => false
  | .sequence a b | .either a b => a.isWide || b.isWide
  | .times _ _ m | .captured m => m.isWide

/-- Whether only stretches without characters are accepted. -/
def isHollow : Matcher → Bool
  | .empty | .look _ => true
  | .chars _ => false
  | .sequence a b | .either a b => a.isHollow && b.isHollow
  | .times _ _ m | .captured m => m.isHollow

/-- Whether a stretch without characters is accepted somewhere. -/
def isNullable : Matcher → Bool
  | .empty | .look _ => true
  | .chars _ => false
  | .sequence a b => a.isNullable && b.isNullable
  | .either a b => a.isNullable || b.isNullable
  | .times least _ m => least == 0 || m.isNullable
  | .captured m => m.isNullable

/-- Several stretches, where counts that make no difference are left out. -/
def repeated (least : Nat) (most? : Option Nat) (m : Matcher) : Matcher :=
  let (least, most?) :=
    if m.isHollow then (min least 1, some (min (most?.getD 1) 1)) else (least, most?)
  if most? = some 0 then .empty
  else if least = 1 ∧ most? = some 1 then m
  else .times least most? m

/-- The bytes that one state takes. -/
def stateSize : Nat := 32

/-- The bytes that a set takes: a state for each byte of a single character, one with its ranges for
    basic characters, and a tree of them for others. -/
def setSize (s : CharSet) : Nat :=
  match s.edges with
  | [] => stateSize
  | [low, past] =>
    if past = low + 1 then stateSize * (Char.ofNat low).utf8Size
    else if past ≤ 0x80 then 2 * stateSize
    else 9 * stateSize + 8 * 16
  | edges =>
    if s.isBasic then 2 * stateSize + 4 * edges.length else 9 * stateSize + 8 * 15 + 4 * edges.length

/-- The bytes that a matcher takes when it is laid out as states, with each repeated part as often
    as it may be needed. -/
def size : Matcher → Nat
  | .empty | .look _ => stateSize
  | .chars s => setSize s
  | .sequence a b => a.size + b.size
  | .either a b => a.size + b.size + 2 * stateSize + 8
  | .captured m => m.size + 2 * stateSize
  | .times least none m =>
    max least 1 * m.size + (if least = 0 ∧ m.isNullable then 3 else 1) * (stateSize + 8)
  | .times least (some most) m =>
    least * m.size + (most - least) * (m.size + stateSize + 8) +
      if least < most then stateSize else 0

/-- The bytes that a whole matcher takes, with what surrounds it. -/
def totalSize (m : Matcher) : Nat :=
  m.size + 5 * stateSize + 8

end Matcher

end Tribase.Pattern
