import Tribase.Pattern.Error

/-!
# Patterns as written

What a pattern says, part by part, with the place of each part. The meaning of a part depends on the
flags that are set where it stands.
-/

namespace Tribase.Pattern

/-! ## 1. Parts of a pattern -/

/-- A character that stands for itself. -/
structure Literal where
  span : Span
  char : Char
  /-- It was written as two hexadecimal digits. -/
  isByte : Bool := false
deriving DecidableEq, Repr

/-- A place between characters. -/
inductive Anchor where
  | lineStart
  | lineEnd
  | textStart
  | textEnd
  | wordEdge
  | noWordEdge
  | wordStart
  | wordEnd
  | wordStartHalf
  | wordEndHalf
deriving DecidableEq, Repr

/-- A class that has a letter of its own. -/
inductive Shorthand where
  | digit
  | space
  | word
deriving DecidableEq, Repr

/-- A part that is read in one go. -/
inductive Atom where
  | literal (l : Literal)
  | dot (span : Span)
  | anchor (span : Span) (a : Anchor)
  | shorthand (span : Span) (s : Shorthand) (negated : Bool)
  /-- A class named by a property of characters. -/
  | property (span : Span)
deriving DecidableEq, Repr

/-- Where an atom stands. -/
def Atom.span : Atom → Span
  | .literal l => l.span
  | .dot span => span
  | .anchor span _ => span
  | .shorthand span _ _ => span
  | .property span => span

/-! ## 2. Classes -/

/-- A class that has a name. -/
inductive ClassName where
  | alnum
  | alpha
  | ascii
  | blank
  | cntrl
  | digit
  | graph
  | lower
  | print
  | punct
  | space
  | upper
  | word
  | xdigit
deriving DecidableEq, Repr

/-- The class of a name. -/
def ClassName.ofName? : String → Option ClassName
  | "alnum" => some .alnum
  | "alpha" => some .alpha
  | "ascii" => some .ascii
  | "blank" => some .blank
  | "cntrl" => some .cntrl
  | "digit" => some .digit
  | "graph" => some .graph
  | "lower" => some .lower
  | "print" => some .print
  | "punct" => some .punct
  | "space" => some .space
  | "upper" => some .upper
  | "word" => some .word
  | "xdigit" => some .xdigit
  | _ => none

/-- The ranges of a class that has a name. -/
def ClassName.ranges : ClassName → List (Char × Char)
  | .alnum => [('0', '9'), ('A', 'Z'), ('a', 'z')]
  | .alpha => [('A', 'Z'), ('a', 'z')]
  | .ascii => [('\x00', '\x7f')]
  | .blank => [('\t', '\t'), (' ', ' ')]
  | .cntrl => [('\x00', '\x1f'), ('\x7f', '\x7f')]
  | .digit => [('0', '9')]
  | .graph => [('!', '~')]
  | .lower => [('a', 'z')]
  | .print => [(' ', '~')]
  | .punct => [('!', '/'), (':', '@'), ('[', '\x60'), ('\x7b', '~')]
  | .space => [('\t', '\r'), (' ', ' ')]
  | .upper => [('A', 'Z')]
  | .word => [('0', '9'), ('A', 'Z'), ('_', '_'), ('a', 'z')]
  | .xdigit => [('0', '9'), ('A', 'F'), ('a', 'f')]

/-- How two classes are combined. -/
inductive ClassOp where
  | intersection
  | difference
  | symmetricDifference
deriving DecidableEq, Repr

/-- What stands between brackets. -/
inductive ClassItem where
  | empty (span : Span)
  | literal (l : Literal)
  | range (span : Span) (low high : Literal)
  | named (span : Span) (name : ClassName) (negated : Bool)
  | shorthand (span : Span) (s : Shorthand) (negated : Bool)
  | property (span : Span)
  | union (span : Span) (items : List ClassItem)
  | bracketed (span : Span) (negated : Bool) (inner : ClassItem)
  | combined (span : Span) (op : ClassOp) (left right : ClassItem)

/-- Where an item stands. -/
def ClassItem.span : ClassItem → Span
  | .empty span => span
  | .literal l => l.span
  | .range span _ _ => span
  | .named span _ _ => span
  | .shorthand span _ _ => span
  | .property span => span
  | .union span _ => span
  | .bracketed span _ _ => span
  | .combined span _ _ _ => span

/-! ## 3. Whole patterns -/

/-- A switch for the meaning of what follows. -/
inductive Flag where
  | caseless
  | manyLines
  | dotAll
  | swapGreed
  | wide
  | crlf
  | spaced
deriving DecidableEq, Repr

/-- Switches, each on or off. -/
abbrev Settings := List (Flag × Bool)

/-- The value of a switch, where it is set. -/
def Settings.value? (s : Settings) (f : Flag) : Option Bool :=
  s.lookup f

/-- What a pair of parentheses is for. -/
inductive GroupKind where
  /-- Its text can be asked for. -/
  | captured
  /-- It only keeps its parts together, under the settings. -/
  | grouped (settings : Settings)
deriving DecidableEq, Repr

/-- A pattern. -/
inductive Node where
  | empty (span : Span)
  | settings (span : Span) (s : Settings)
  | atom (a : Atom)
  | bracketed (span : Span) (negated : Bool) (inner : ClassItem)
  | times (span : Span) (least : Nat) (most? : Option Nat) (inner : Node)
  | group (span : Span) (kind : GroupKind) (inner : Node)
  | branches (span : Span) (nodes : List Node)
  | sequence (span : Span) (nodes : List Node)

/-- Where a node stands. -/
def Node.span : Node → Span
  | .empty span => span
  | .settings span _ => span
  | .atom a => a.span
  | .bracketed span _ _ => span
  | .times span _ _ _ => span
  | .group span _ _ => span
  | .branches span _ => span
  | .sequence span _ => span

end Tribase.Pattern
