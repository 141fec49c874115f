import Tribase.Pattern.Cursor
import Tribase.Pattern.Node

/-!
# Escapes

A backslash gives the next character a meaning that it does not have by itself, or takes away one
that it has. Each reader here starts with the cursor at the character named in its comment.
-/

namespace Tribase.Pattern

/-- Whether a character has a meaning of its own in patterns. -/
def isMeta (c : Char) : Bool :=
  "\\.+*?()|[]\x7b\x7d^$#&-~".toList.contains c

/-- Whether a character stands for itself after a backslash. Letters and digits are kept for
    meanings of their own. -/
def isEscapable (c : Char) : Bool :=
  isMeta c || (c.toNat < 128 && !c.isAlphanum && c != '<' && c != '>')

/-- Whether a character is a hexadecimal digit. -/
def isHexDigit (c : Char) : Bool :=
  c.isDigit || ('a' ≤ c && c ≤ 'f') || ('A' ≤ c && c ≤ 'F')

/-- The value of a hexadecimal digit. -/
def hexValue (c : Char) : Nat :=
  if c.isDigit then c.toNat - '0'.toNat
  else if 'a' ≤ c then c.toNat - 'a'.toNat + 10
  else c.toNat - 'A'.toNat + 10

/-- The character of hexadecimal digits. -/
def hexChar? (digits : List Char) : Option Char :=
  let n := digits.foldl (fun n c => n * 16 + hexValue c) 0
  if h : n.isValidChar then some (Char.ofNatAux n h) else none

namespace Cursor

/-! ## 1. Hexadecimal characters -/

/-- A fixed number of hexadecimal digits. -/
def hexDigits : Nat → Cursor → Except PatternError (List Char × Cursor)
  | 0, k => .ok ([], k)
  | n + 1, k =>
    match k.head? with
    | none => refuse .unfinishedEscape k.place.point
    | some c =>
      if isHexDigit c then (hexDigits n k.advance).map fun (cs, stop) => (c :: cs, stop)
      else refuse .badHexDigit (k.spanOf c)

/-- A character by a fixed number of digits. -/
def hexFixed (start : Place) (isByte : Bool) (n : Nat) (k : Cursor) :
    Except PatternError (Literal × Cursor) := do
  let (digits, stop) ← k.hexDigits n
  match hexChar? digits with
  | none => refuse .badHexValue ⟨k.place, stop.place⟩
  | some char => return ({ span := ⟨start, stop.place⟩, char, isByte }, stop)

/-- A character by digits in braces; here stands the opening one. -/
def hexBraced (start : Place) (k : Cursor) : Except PatternError (Literal × Cursor) :=
  let inside := k.place.after '\x7b'
  let (digits, stop) := k.advance.takeWhile isHexDigit
  match stop.head? with
  | none => refuse .unfinishedEscape ⟨k.place, stop.place⟩
  | some c =>
    if c ≠ '\x7d' then refuse .badHexDigit (stop.spanOf c)
    else
      let past := stop.advance
      if digits.isEmpty then refuse .emptyHex ⟨k.place, past.place⟩
      else
        match hexChar? digits with
        | none => refuse .badHexValue ⟨inside, stop.place⟩
        | some char => .ok ({ span := ⟨start, past.place⟩, char }, past)

/-- A character by its number; here stands `x`, `u` or `U`. -/
def hexLiteral (start : Place) (letter : Char) (k : Cursor) :
    Except PatternError (Literal × Cursor) :=
  let k := k.advance
  match k.head? with
  | none => refuse .unfinishedEscape k.place.point
  | some '\x7b' => k.hexBraced start
  | some _ =>
    match letter with
    | 'x' => k.hexFixed start true 2
    | 'u' => k.hexFixed start false 4
    | _ => k.hexFixed start false 8

/-! ## 2. Classes -/

/-- A class by a property; here stands `p` or `P`. -/
def property (start : Place) (k : Cursor) : Except PatternError (Atom × Cursor) :=
  let k := k.advance
  match k.head? with
  | none => refuse .unfinishedEscape k.place.point
  | some '\x7b' =>
    let stop := (k.advance.takeWhile (· != '\x7d')).2
    if stop.rest.isEmpty then refuse .unfinishedEscape stop.place.point
    else .ok (.property ⟨start, stop.step.place⟩, stop.step)
  | some '\\' => refuse .badProperty (k.spanOf '\\')
  | some _ => .ok (.property ⟨start, k.advance.place⟩, k.advance)

/-- The class of a letter. -/
def shorthand? : Char → Option (Shorthand × Bool)
  | 'd' => some (.digit, false)
  | 's' => some (.space, false)
  | 'w' => some (.word, false)
  | 'D' => some (.digit, true)
  | 'S' => some (.space, true)
  | 'W' => some (.word, true)
  | _ => none

/-! ## 3. Places -/

/-- The kind of word edge that stands in braces; here stands the opening brace. What cannot be the
    name of one is left for a count. -/
def wordEdge (start : Place) (k : Cursor) : Except PatternError (Anchor × Cursor) :=
  let isNameChar (c : Char) : Bool := c.isAlpha || c == '-'
  let inside := k.advance
  match inside.head? with
  | none => refuse .unfinishedBoundary ⟨start, inside.place⟩
  | some c =>
    if !isNameChar c then .ok (.wordEdge, k)
    else
      let (name, stop) := inside.takeWhile isNameChar
      if stop.head? ≠ some '\x7d' then refuse .unclosedBoundary ⟨k.place, stop.place⟩
      else
        match String.ofList name with
        | "start" => .ok (.wordStart, stop.step)
        | "end" => .ok (.wordEnd, stop.step)
        | "start-half" => .ok (.wordStartHalf, stop.step)
        | "end-half" => .ok (.wordEndHalf, stop.step)
        | _ => refuse .unknownBoundary ⟨inside.place, stop.place⟩

/-- The character of a letter. -/
def special? : Char → Option Char
  | 'a' => some '\x07'
  | 'f' => some '\x0c'
  | 't' => some '\t'
  | 'n' => some '\n'
  | 'r' => some '\r'
  | 'v' => some '\x0b'
  | _ => none

/-- The place of a letter or sign. -/
def anchor? : Char → Option Anchor
  | 'A' => some .textStart
  | 'z' => some .textEnd
  | 'B' => some .noWordEdge
  | '<' => some .wordStart
  | '>' => some .wordEnd
  | _ => none

/-! ## 4. All escapes -/

/-- The atom of a letter or sign after a backslash, where that letter is all of it. -/
def oneLetter (start : Place) (c : Char) (k : Cursor) : Except PatternError (Atom × Cursor) :=
  let span : Span := ⟨start, k.place⟩
  if isEscapable c then .ok (.literal { span, char := c }, k)
  else
    match shorthand? c, special? c, anchor? c with
    | some (s, negated), _, _ => .ok (.shorthand span s negated, k)
    | _, some char, _ => .ok (.literal { span, char }, k)
    | _, _, some a => .ok (.anchor span a, k)
    | _, _, _ =>
      if c ≠ 'b' then refuse .unknownEscape span
      else if k.head? = some '\x7b' then
        (k.wordEdge start).map fun (a, stop) => (.anchor ⟨start, stop.place⟩ a, stop)
      else .ok (.anchor span .wordEdge, k)

/-- An escape; here stands the backslash. -/
def escape (k : Cursor) : Except PatternError (Atom × Cursor) :=
  let start := k.place
  let k := k.step
  match k.head? with
  | none => refuse .unfinishedEscape ⟨start, k.place⟩
  | some c =>
    if c.isDigit then refuse .backreference ⟨start, k.place.after c⟩
    else if c = 'x' ∨ c = 'u' ∨ c = 'U' then
      (k.hexLiteral start c).map fun (l, stop) => (.literal l, stop)
    else if c = 'p' ∨ c = 'P' then k.property start
    else k.step.oneLetter start c

end Cursor

end Tribase.Pattern
