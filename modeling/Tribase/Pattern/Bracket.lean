import Tribase.Pattern.Escape

/-!
# Classes in brackets

A class in brackets lists characters, ranges and other classes, also such in brackets of their own.
Two lists can be combined by `&&`, `--` and `~~`, which bind to the left.

The reader keeps the list that it is adding to, and around it a stack of brackets that are open and
of operators that wait for their right side.
-/

namespace Tribase.Pattern

/-- Items side by side, and the span that they cover. -/
structure Items where
  span : Span
  items : List ClassItem

namespace Items

/-- No items yet. -/
def none (p : Place) : Items := ⟨p.point, []⟩

/-- One more item. -/
def add (u : Items) (i : ClassItem) : Items :=
  let first := if u.items.isEmpty then i.span.first else u.span.first
  ⟨⟨first, i.span.past⟩, u.items ++ [i]⟩

/-- The items as one. -/
def item (u : Items) : ClassItem :=
  match u.items with
  | [] => .empty u.span
  | [i] => i
  | items => .union u.span items

end Items

/-- What stands around the list that is being read. -/
inductive ClassFrame where
  /-- A bracket was opened after the items `before`; `span` reaches over what opens it. -/
  | bracket (before : Items) (span : Span) (negated : Bool)
  /-- An operator waits for its right side. -/
  | operator (op : ClassOp) (left : ClassItem)

/-- A reader of a class in brackets. -/
structure ClassReader where
  cursor : Cursor
  items : Items
  frames : List ClassFrame

/-- A class in brackets. -/
structure Bracketed where
  span : Span
  negated : Bool
  inner : ClassItem

namespace ClassReader

/-- The fault of a class that the pattern does not close: its innermost bracket. -/
def unclosed (r : ClassReader) : PatternError :=
  let spans := r.frames.filterMap fun
    | .bracket _ span _ => some span
    | .operator _ _ => none
  { cause := .unclosedClass, span := spans.head?.getD r.cursor.place.point }

/-! ## 1. Brackets -/

/-- Dashes at the start of a class stand for themselves. -/
def leadingDashes (start : Place) : Nat → Cursor → Items →
    Except PatternError (Items × Cursor)
  | 0, k, u => .ok (u, k)
  | n + 1, k, u =>
    if k.head? = some '-' then
      let u := u.add (.literal { span := k.spanOf '-', char := '-' })
      let k := k.advance
      if k.rest.isEmpty then Cursor.refuse .unclosedClass start.point
      else leadingDashes start n k u
    else .ok (u, k)

/-- Opens a bracket, which stands here. A closing bracket right after it stands for itself. -/
def openBracket (r : ClassReader) : Except PatternError ClassReader := do
  let start := r.cursor.place
  let ended (k : Cursor) : Except PatternError Unit :=
    if k.rest.isEmpty then Cursor.refuse .unclosedClass ⟨start, k.place⟩ else .ok ()
  let k := r.cursor.advance
  ended k
  let negated := k.head? = some '^'
  let k := if negated then k.advance else k
  ended k
  let (items, k) ← leadingDashes start k.rest.length k (.none k.place)
  if items.items.isEmpty ∧ k.head? = some ']' then
    let items := items.add (.literal { span := k.spanOf ']', char := ']' })
    let k := k.advance
    ended k
    return ⟨k, items, .bracket r.items ⟨start, k.place⟩ negated :: r.frames⟩
  else
    return ⟨k, items, .bracket r.items ⟨start, k.place⟩ negated :: r.frames⟩

/-- Gives a waiting operator its right side. -/
def settle (right : ClassItem) : List ClassFrame → ClassItem × List ClassFrame
  | .operator op left :: frames =>
    (.combined ⟨left.span.first, right.span.past⟩ op left right, frames)
  | frames => (right, frames)

/-- Closes a bracket: the class is complete, or becomes an item of the class around it. -/
def closeBracket (r : ClassReader) : ClassReader ⊕ (Bracketed × Cursor) :=
  let k := r.cursor.step
  match settle r.items.item r.frames with
  | (inner, .bracket before span negated :: frames) =>
    let span : Span := ⟨span.first, k.place⟩
    if frames.isEmpty then .inr (⟨span, negated, inner⟩, k)
    else .inl ⟨k, before.add (.bracketed span negated inner), frames⟩
  | (inner, _) => .inr (⟨inner.span, false, inner⟩, k)

/-- Reads an operator of two characters. -/
def operator (r : ClassReader) (op : ClassOp) : ClassReader :=
  let (left, frames) := settle r.items.item r.frames
  let k := r.cursor.step.step
  ⟨k, .none k.place, .operator op left :: frames⟩

/-! ## 2. Items -/

/-- A class by its name, as in `[:alpha:]`, if one stands here. -/
def named? (k : Cursor) : Option (ClassItem × Cursor) := do
  let inside ← k.past? "[:"
  let negated := inside.head? = some '^'
  let inside := if negated then inside.step else inside
  let name := inside.rest.takeWhile (· != ':')
  let stop ← (name.foldl (fun k _ => k.step) inside).past? ":]"
  let name ← ClassName.ofName? (String.ofList name)
  return (.named ⟨k.place, stop.place⟩ name negated, stop)

/-- A character or an escape. -/
def atom (k : Cursor) : Except PatternError (Atom × Cursor) :=
  match k.head? with
  | none => .ok (.dot k.place.point, k)
  | some '\\' => k.escape
  | some c => .ok (.literal { span := k.spanOf c, char := c }, k.step)

/-- An atom as an item of a class. -/
def itemOf : Atom → Except PatternError ClassItem
  | .literal l => .ok (.literal l)
  | .shorthand span s negated => .ok (.shorthand span s negated)
  | .property span => .ok (.property span)
  | other => Cursor.refuse .badClassEscape other.span

/-- An atom as the bound of a range. -/
def boundOf : Atom → Except PatternError Literal
  | .literal l => .ok l
  | other => Cursor.refuse .badClassBound other.span

/-- An item or a range. A dash makes a range unless a closing bracket or another dash follows. -/
def range (r : ClassReader) : Except PatternError ClassReader := do
  let (low, k) ← atom r.cursor
  let k := k.skipBlanks
  if k.rest.isEmpty then .error r.unclosed
  let next := k.secondPastBlanks?
  if k.head? ≠ some '-' ∨ next = some ']' ∨ next = some '-' then
    return { r with cursor := k, items := r.items.add (← itemOf low) }
  let k := k.advance
  if k.rest.isEmpty then .error r.unclosed
  let (high, k) ← atom k
  let span : Span := ⟨low.span.first, high.span.past⟩
  let low ← boundOf low
  let high ← boundOf high
  if high.char < low.char then Cursor.refuse .reversedClassRange span
  return { r with cursor := k, items := r.items.add (.range span low high) }

/-! ## 3. Whole classes -/

/-- One step: a bracket, an operator, or an item. -/
def step (r : ClassReader) : Except PatternError (ClassReader ⊕ (Bracketed × Cursor)) :=
  let r := { r with cursor := r.cursor.skipBlanks }
  match r.cursor.head?, r.cursor.second? with
  | none, _ => .error r.unclosed
  | some '[', _ =>
    match if r.frames.isEmpty then none else named? r.cursor with
    | some (i, k) => .ok (.inl { r with cursor := k, items := r.items.add i })
    | none => r.openBracket.map .inl
  | some ']', _ => .ok r.closeBracket
  | some '&', some '&' => .ok (.inl (r.operator .intersection))
  | some '-', some '-' => .ok (.inl (r.operator .difference))
  | some '~', some '~' => .ok (.inl (r.operator .symmetricDifference))
  | _, _ => r.range.map .inl

end ClassReader

/-- A class in brackets; here stands the first of them. -/
def Cursor.bracketed (k : Cursor) : Except PatternError (Bracketed × Cursor) :=
  Cursor.descend ClassReader.cursor ClassReader.step ClassReader.unclosed
    ⟨k, .none k.place, []⟩

end Tribase.Pattern
