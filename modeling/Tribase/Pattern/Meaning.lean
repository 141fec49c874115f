import Tribase.Pattern.Error
import Tribase.Pattern.Matcher
import Tribase.Pattern.Node

/-!
# What a pattern means

The matcher of a pattern as written, under the flags that are set where each part stands. Settings
hold to the end of the group that they stand in.

Patterns are about characters where the flag `wide` is set, as it is at first, and about bytes where
it is not; then they must not accept a part of a character. The classes and cases of all languages
are not known here, so a wide pattern that asks for them is refused.
-/

namespace Tribase.Pattern

open Text (CharSet)

/-- The flags that matter for what is accepted. -/
structure Flags where
  caseless : Bool := false
  manyLines : Bool := false
  dotAll : Bool := false
  wide : Bool := true
  crlf : Bool := false
deriving DecidableEq, Repr

namespace Flags

/-- The flags after settings. -/
def apply (f : Flags) (s : Settings) : Flags where
  caseless := (s.value? .caseless).getD f.caseless
  manyLines := (s.value? .manyLines).getD f.manyLines
  dotAll := (s.value? .dotAll).getD f.dotAll
  wide := (s.value? .wide).getD f.wide
  crlf := (s.value? .crlf).getD f.crlf

/-- Refuses the pattern. -/
def refuse {α : Type} (cause : Cause) (span : Span) : Except PatternError α :=
  .error { cause, span }

/-! ## 1. Characters -/

/-- The character of a literal, which is no part of a character. -/
def literalChar (f : Flags) (l : Literal) : Except PatternError Char :=
  if !f.wide && l.isByte && 0x80 ≤ l.char.toNat then refuse .notText l.span else .ok l.char

/-- A character that stands for itself. -/
def literal (f : Flags) (l : Literal) : Except PatternError Matcher := do
  let c ← f.literalChar l
  if f.caseless && f.wide then refuse .noWideCase l.span
  let s := CharSet.only c
  return .chars (if f.caseless then s.withBothCases else s)

/-- Any character, or any but line ends. -/
def dot (f : Flags) (span : Span) : Except PatternError Matcher :=
  if !f.wide then refuse .notText span
  else if f.dotAll then .ok (.chars .all)
  else if f.crlf then .ok (.chars (.difference .all (.ofRanges [('\n', '\n'), ('\r', '\r')])))
  else .ok (.chars (.difference .all (.only '\n')))

/-- A place between characters. -/
def anchor (f : Flags) : Anchor → Look
  | .lineStart => if f.manyLines then .lineStart f.crlf else .textStart
  | .lineEnd => if f.manyLines then .lineEnd f.crlf else .textEnd
  | .textStart => .textStart
  | .textEnd => .textEnd
  | .wordEdge => .word .either f.wide
  | .noWordEdge => .word .neither f.wide
  | .wordStart => .word .starts f.wide
  | .wordEnd => .word .ends f.wide
  | .wordStartHalf => .word .startsHalf f.wide
  | .wordEndHalf => .word .endsHalf f.wide

/-! ## 2. Classes -/

/-- The members of a class, and whether both cases of every letter are known to be in it. -/
structure Members where
  chars : CharSet
  isFolded : Bool

/-- No members. -/
def Members.none : Members := ⟨.empty, true⟩

/-- The members of both. -/
def Members.union (a b : Members) : Members :=
  if b.chars.isEmpty then a else ⟨a.chars.union b.chars, a.isFolded && b.isFolded⟩

/-- The members with their other cases, where case does not matter. -/
def fold (f : Flags) (span : Span) (m : Members) : Except PatternError Members :=
  if !f.caseless || m.isFolded then .ok m
  else if f.wide then refuse .noWideCase span
  else .ok ⟨m.chars.withBothCases, true⟩

/-- All that is no member. -/
def negate (f : Flags) (m : Members) : Members :=
  let whole : CharSet := if f.wide then .all else .below 0x100
  ⟨whole.difference m.chars, m.isFolded⟩

/-- A class, folded and perhaps negated. Without the flag `wide` it must hold basic characters
    only. -/
def close (f : Flags) (span : Span) (negated : Bool) (m : Members) :
    Except PatternError Members := do
  let m ← f.fold span m
  let m := if negated then f.negate m else m
  if !f.wide && !m.chars.isBasic then refuse .notText span
  return m

/-- The name of the class that a letter stands for. -/
def shorthandName : Shorthand → ClassName
  | .digit => .digit
  | .space => .space
  | .word => .word

/-- A class that has a letter of its own. -/
def shorthand (f : Flags) (span : Span) (s : Shorthand) (negated : Bool) :
    Except PatternError Members := do
  if f.wide then refuse .noWideShorthand span
  let m : Members := ⟨.ofRanges (shorthandName s).ranges, true⟩
  let m := if negated then f.negate m else m
  if !m.chars.isBasic then refuse .notText span
  return m

/-- A class by a property. -/
def property {α : Type} (f : Flags) (span : Span) : Except PatternError α :=
  if f.wide then refuse .unknownProperty span else refuse .wideNotAllowed span

/-- The bound of a range. -/
def bound (f : Flags) (l : Literal) : Except PatternError Char := do
  let c ← f.literalChar l
  if !f.wide && 0x80 ≤ c.toNat then refuse .wideNotAllowed l.span
  return c

/-- Two classes combined. -/
def combine : ClassOp → CharSet → CharSet → CharSet
  | .intersection => .intersection
  | .difference => .difference
  | .symmetricDifference => .symmetricDifference

mutual

/-- The members of what stands between brackets. -/
def members (f : Flags) : ClassItem → Except PatternError Members
  | .empty _ => .ok .none
  | .literal l => do
    let c ← f.bound l
    return ⟨.only c, false⟩
  | .range _ low high => do
    let low ← f.bound low
    let high ← f.bound high
    return ⟨.range low high, false⟩
  | .named span name negated => f.close span negated ⟨.ofRanges name.ranges, false⟩
  | .shorthand span s negated => f.shorthand span s negated
  | .property span => f.property span
  | .union _ items => f.membersOfAll items
  | .bracketed span negated inner => do f.close span negated (← f.members inner)
  | .combined _ op left right => do
    let a ← f.members left
    let b ← f.members right
    let b ← f.fold right.span b
    let a ← f.fold left.span a
    return ⟨combine op a.chars b.chars, a.isFolded && b.isFolded⟩

/-- The members of several items. -/
def membersOfAll (f : Flags) : List ClassItem → Except PatternError Members
  | [] => .ok .none
  | i :: is => do
    let a ← f.members i
    let b ← f.membersOfAll is
    return a.union b

end

end Flags

/-! ## 3. Patterns -/

/-- The matcher of an atom. -/
def Atom.matcher (f : Flags) : Atom → Except PatternError Matcher
  | .literal l => f.literal l
  | .dot span => f.dot span
  | .anchor _ a => .ok (.look (f.anchor a))
  | .shorthand span s negated => (f.shorthand span s negated).map (.chars ·.chars)
  | .property span => f.property span

mutual

/-- The matcher of a pattern, and the flags after it. -/
def Node.matcher (f : Flags) : Node → Except PatternError (Matcher × Flags)
  | .empty _ => .ok (.empty, f)
  | .settings _ s => .ok (.empty, f.apply s)
  | .atom a => (a.matcher f).map (·, f)
  | .bracketed span negated inner => do
    let m ← f.close span negated (← f.members inner)
    return (.chars m.chars, f)
  | .times _ least most? inner => do
    let (m, f) ← inner.matcher f
    return (.repeated least most? m, f)
  | .group _ .captured inner => do
    let (m, _) ← inner.matcher f
    return (.captured m, f)
  | .group _ (.grouped s) inner => do
    let (m, _) ← inner.matcher (f.apply s)
    return (m, f)
  | .branches _ nodes => Node.anyMatcher f nodes
  | .sequence _ nodes => Node.allMatcher f nodes

/-- The matcher of one of several patterns. -/
def Node.anyMatcher (f : Flags) : List Node → Except PatternError (Matcher × Flags)
  | [] => .ok (.chars .empty, f)
  | [n] => n.matcher f
  | n :: ns => do
    let (a, f) ← n.matcher f
    let (b, f) ← Node.anyMatcher f ns
    return (.either a b, f)

/-- The matcher of several patterns, one after the other. -/
def Node.allMatcher (f : Flags) : List Node → Except PatternError (Matcher × Flags)
  | [] => .ok (.empty, f)
  | [n] => n.matcher f
  | n :: ns => do
    let (a, f) ← n.matcher f
    let (b, f) ← Node.allMatcher f ns
    return (.sequence a b, f)

end

end Tribase.Pattern
