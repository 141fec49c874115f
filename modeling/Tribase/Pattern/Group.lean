import Tribase.Pattern.Cursor
import Tribase.Pattern.Node
import Tribase.Text.Letter

/-!
# Parentheses

What an opening parenthesis starts: a group whose text can be asked for, perhaps by a name, a group
with settings, or settings for what follows.
-/

namespace Tribase.Pattern

/-! ## 1. Settings -/

/-- The switch of a letter. -/
def Flag.ofLetter? : Char → Option Flag
  | 'i' => some .caseless
  | 'm' => some .manyLines
  | 's' => some .dotAll
  | 'U' => some .swapGreed
  | 'u' => some .wide
  | 'R' => some .crlf
  | 'x' => some .spaced
  | _ => none

/-- Letters for switches, and where they stand; after a dash they are turned off. -/
structure FlagLetters where
  settings : List (Flag × Bool × Span) := []
  dash? : Option Span := none

namespace FlagLetters

/-- The switches without their places. -/
def toSettings (f : FlagLetters) : Settings :=
  f.settings.map fun (flag, on, _) => (flag, on)

/-- Takes a dash. -/
def addDash (f : FlagLetters) (span : Span) : Except PatternError FlagLetters :=
  match f.dash? with
  | some earlier => .error { cause := .repeatedNegation, span, earlier? := some earlier }
  | none => .ok { f with dash? := some span }

/-- Takes a switch. -/
def addFlag (f : FlagLetters) (flag : Flag) (span : Span) : Except PatternError FlagLetters :=
  match f.settings.lookup flag with
  | some (_, earlier) => .error { cause := .repeatedFlag, span, earlier? := some earlier }
  | none => .ok { f with settings := f.settings ++ [(flag, f.dash?.isNone, span)] }

/-- Reads letters up to a colon or a closing parenthesis, where the cursor then stands. `last?` is
    the place of a dash right before. -/
def read (spaced : Bool) (f : FlagLetters) (last? : Option Span) : List Char → Place →
    Except PatternError (FlagLetters × Cursor)
  | [], p => Cursor.refuse .unfinishedFlags p.point
  | c :: cs, p =>
    let span : Span := ⟨p, p.after c⟩
    if c = ':' ∨ c = ')' then
      match last? with
      | some dash => Cursor.refuse .danglingNegation dash
      | none => .ok (f, ⟨c :: cs, p, spaced⟩)
    else if c = '-' then do
      read spaced (← f.addDash span) (some span) cs (p.after c)
    else
      match Flag.ofLetter? c with
      | none => Cursor.refuse .unknownFlag span
      | some flag => do read spaced (← f.addFlag flag span) none cs (p.after c)

end FlagLetters

/-! ## 2. Names -/

/-- Whether a character can stand in a name, at its start or later. -/
def isNameChar (isFirst : Bool) (c : Char) : Bool :=
  c == '_' || Text.letters.has c ||
    (!isFirst && (c == '.' || c == '[' || c == ']' || Text.numbers.has c))

/-- The names of groups, and where they stand. -/
abbrev Names := List (String × Span)

/-- A name up to the closing angle bracket. -/
def readName (names : Names) (k : Cursor) : Except PatternError (Names × Cursor) :=
  let name := k.rest.takeWhile (· != '>')
  let stop := name.foldl (fun k _ => k.step) k
  let allowed := (name.take 1).takeWhile (isNameChar true)
  let allowed := if allowed.isEmpty then [] else allowed ++ name.tail.takeWhile (isNameChar false)
  let bad := allowed.foldl (fun k _ => k.step) k
  match name.drop allowed.length with
  | c :: _ => Cursor.refuse .badNameCharacter (bad.spanOf c)
  | [] =>
    if stop.rest.isEmpty then Cursor.refuse .unfinishedName stop.place.point
    else if name.isEmpty then Cursor.refuse .emptyName k.place.point
    else
      let name := String.ofList name
      let span : Span := ⟨k.place, stop.place⟩
      match names.lookup name with
      | some earlier => .error { cause := .repeatedName, span, earlier? := some earlier }
      | none => .ok ((name, span) :: names, stop.step)

/-! ## 3. Openings -/

/-- What an opening parenthesis starts. -/
inductive Opening where
  | group (kind : GroupKind)
  | settings (s : Settings)

/-- The start of a condition on the surroundings, which patterns do not have. -/
def lookaround? (k : Cursor) : Option Cursor :=
  ["?=", "?!", "?<=", "?<!"].findSome? k.past?

/-- The rest of an opening after `(?`. -/
def readSettings (start : Span) (mark : Place) (names : Names) (k : Cursor) :
    Except PatternError (Opening × Names × Cursor) := do
  if k.rest.isEmpty then Cursor.refuse .unclosedGroup start
  let (letters, k) ← FlagLetters.read k.spaced {} none k.rest k.place
  if k.head? = some ')' then
    if letters.settings.isEmpty ∧ letters.dash?.isNone then
      Cursor.refuse .nothingToRepeat mark.point
    return (.settings letters.toSettings, names, k.step)
  else
    return (.group (.grouped letters.toSettings), names, k.step)

/-- An opening parenthesis, which stands here, and what belongs to it. -/
def readOpening (names : Names) (k : Cursor) :
    Except PatternError (Opening × Names × Cursor) := do
  let start := k.spanOf '('
  let k := k.advance
  if let some past := lookaround? k then
    Cursor.refuse .lookaround ⟨start.first, past.place⟩
  match (k.past? "?P<").or (k.past? "?<") with
  | some inside =>
    let (names, k) ← readName names inside
    return (.group .captured, names, k)
  | none =>
    match k.past? "?" with
    | some inside => readSettings start k.place names inside
    | none => return (.group .captured, names, k)

end Tribase.Pattern
