/-!
# Faults in patterns

Why a pattern is refused, and where in it the cause stands. A place is a line and a column, both
counted from one; a span reaches from a place up to another.
-/

namespace Tribase.Pattern

/-! ## 1. Places -/

/-- A place in a pattern. -/
structure Place where
  line : Nat
  column : Nat
deriving DecidableEq, Repr

namespace Place

/-- The place of the first character. -/
def start : Place := ⟨1, 1⟩

/-- The place after a character. -/
def after (p : Place) (c : Char) : Place :=
  if c = '\n' then ⟨p.line + 1, 1⟩ else ⟨p.line, p.column + 1⟩

end Place

/-- A stretch of a pattern, up to the place `past`. -/
structure Span where
  first : Place
  past : Place
deriving DecidableEq, Repr

/-- The span between two characters. -/
def Place.point (p : Place) : Span := ⟨p, p⟩

/-- Whether a span starts and ends on one line. -/
def Span.isOneLine (s : Span) : Bool :=
  s.first.line == s.past.line

/-! ## 2. Causes -/

/-- The most levels that the parts of a pattern may be nested. -/
def nestLimit : Nat := 250

/-- The most bytes that a pattern may take when it is made ready. -/
def sizeLimit : Nat := 10 * 1024 * 1024

/-- Why a pattern is refused. -/
inductive Cause where
  | badClassEscape
  | reversedClassRange
  | badClassBound
  | unclosedClass
  | badDecimal
  | emptyHex
  | badHexValue
  | badHexDigit
  | unfinishedEscape
  | unknownEscape
  | danglingNegation
  | repeatedFlag
  | repeatedNegation
  | unfinishedFlags
  | unknownFlag
  | repeatedName
  | emptyName
  | badNameCharacter
  | unfinishedName
  | unclosedGroup
  | unopenedGroup
  | tooNested
  | reversedCount
  | emptyCount
  | unclosedCount
  | nothingToRepeat
  | unclosedBoundary
  | unknownBoundary
  | unfinishedBoundary
  | badProperty
  | backreference
  | lookaround
  | wideNotAllowed
  | notText
  | unknownProperty
  | noWideShorthand
  | noWideCase
deriving DecidableEq, Repr

/-- The text shown for the cause. -/
def Cause.message : Cause → String
  | .badClassEscape => "invalid escape sequence found in character class"
  | .reversedClassRange => "invalid character class range, the start must be <= the end"
  | .badClassBound => "invalid range boundary, must be a literal"
  | .unclosedClass => "unclosed character class"
  | .badDecimal => "decimal literal invalid"
  | .emptyHex => "hexadecimal literal empty"
  | .badHexValue => "hexadecimal literal is not a Unicode scalar value"
  | .badHexDigit => "invalid hexadecimal digit"
  | .unfinishedEscape => "incomplete escape sequence, reached end of pattern prematurely"
  | .unknownEscape => "unrecognized escape sequence"
  | .danglingNegation => "dangling flag negation operator"
  | .repeatedFlag => "duplicate flag"
  | .repeatedNegation => "flag negation operator repeated"
  | .unfinishedFlags => "expected flag but got end of regex"
  | .unknownFlag => "unrecognized flag"
  | .repeatedName => "duplicate capture group name"
  | .emptyName => "empty capture group name"
  | .badNameCharacter => "invalid capture group character"
  | .unfinishedName => "unclosed capture group name"
  | .unclosedGroup => "unclosed group"
  | .unopenedGroup => "unopened group"
  | .tooNested => s!"exceed the maximum number of nested parentheses/brackets ({nestLimit})"
  | .reversedCount => "invalid repetition count range, the start must be <= the end"
  | .emptyCount => "repetition quantifier expects a valid decimal"
  | .unclosedCount => "unclosed counted repetition"
  | .nothingToRepeat => "repetition operator missing expression"
  | .unclosedBoundary =>
    "special word boundary assertion is either unclosed or contains an invalid character"
  | .unknownBoundary =>
    "unrecognized special word boundary assertion, valid choices are: " ++
      "start, end, start-half or end-half"
  | .unfinishedBoundary =>
    "found either the beginning of a special word boundary or a bounded repetition on a " ++
      "\\b with an opening brace, but no closing brace"
  | .badProperty => "invalid Unicode character class"
  | .backreference => "backreferences are not supported"
  | .lookaround => "look-around, including look-ahead and look-behind, is not supported"
  | .wideNotAllowed => "Unicode not allowed here"
  | .notText => "pattern can match invalid UTF-8"
  | .unknownProperty => "Unicode property not found"
  | .noWideShorthand =>
    "Unicode-aware Perl class not found (make sure the unicode-perl feature is enabled)"
  | .noWideCase =>
    "Unicode-aware case insensitivity matching is not available " ++
      "(make sure the unicode-case feature is enabled)"

/-- A fault in a pattern: the cause, where it stands, and where something that it repeats stands. -/
structure PatternError where
  cause : Cause
  span : Span
  earlier? : Option Span := none
deriving DecidableEq, Repr

end Tribase.Pattern
