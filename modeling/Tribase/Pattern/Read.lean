import Tribase.Pattern.Bracket
import Tribase.Pattern.Group

/-!
# Reading a whole pattern

A pattern is a sequence of parts, or several of them between bars; parentheses make a pattern one
part, and a count after a part repeats it.

The reader keeps the sequence that it is adding to, and around it a stack of groups that are open
and of branches that are complete. The first fault from the left counts. `Node.ofText` reads a
pattern and then sees to it that its parts are not nested too deeply.
-/

namespace Tribase.Pattern

/-- Parts side by side, and the place where they start. -/
structure Parts where
  first : Place
  nodes : List Node

/-- The parts as one. -/
def Parts.node (ps : Parts) (past : Place) : Node :=
  match ps.nodes with
  | [] => .empty ⟨ps.first, past⟩
  | [n] => n
  | nodes => .sequence ⟨ps.first, past⟩ nodes

/-- What stands around the sequence that is being read. -/
inductive Frame where
  /-- A group was opened after the parts `before`; `spaced` is what holds again after it. -/
  | group (before : Parts) (span : Span) (kind : GroupKind) (spaced : Bool)
  /-- Branches in front of the last bar. -/
  | branches (first : Place) (nodes : List Node)

/-- A reader of a pattern. -/
structure Reader where
  cursor : Cursor
  parts : Parts
  frames : List Frame
  names : Names

namespace Reader

/-- The start of a pattern. -/
def start (pattern : String) : Reader :=
  ⟨.start pattern, ⟨.start, []⟩, [], []⟩

/-- Goes on at the cursor with one more part. -/
def add (r : Reader) (k : Cursor) (n : Node) : Reader :=
  { r with cursor := k, parts := { r.parts with nodes := r.parts.nodes ++ [n] } }

/-! ## 1. Groups and branches -/

/-- Takes an opening parenthesis. -/
def openGroup (r : Reader) : Except PatternError Reader := do
  let start := r.cursor.place
  let (opening, names, k) ← readOpening r.names r.cursor
  let spaced (s : Settings) : Bool := (s.value? .spaced).getD k.spaced
  match opening with
  | .settings s =>
    return { r.add { k with spaced := spaced s } (.settings ⟨start, k.place⟩ s) with names }
  | .group kind =>
    let inner :=
      match kind with
      | .captured => k.spaced
      | .grouped s => spaced s
    let frame : Frame := .group r.parts ⟨start, start.after '('⟩ kind r.cursor.spaced
    return ⟨{ k with spaced := inner }, ⟨k.place, []⟩, frame :: r.frames, names⟩

/-- Takes a bar: the sequence is a complete branch. -/
def branch (r : Reader) : Reader :=
  let node := r.parts.node r.cursor.place
  let k := r.cursor.step
  let frames :=
    match r.frames with
    | .branches first nodes :: frames => .branches first (nodes ++ [node]) :: frames
    | frames => .branches r.parts.first [node] :: frames
  { r with cursor := k, parts := ⟨k.place, []⟩, frames }

/-- Joins the sequence with the branches in front of it. -/
def joined (r : Reader) : Node × List Frame :=
  let past := r.cursor.place
  let node := r.parts.node past
  match r.frames with
  | .branches first nodes :: frames => (.branches ⟨first, past⟩ (nodes ++ [node]), frames)
  | frames => (node, frames)

/-- Takes a closing parenthesis. -/
def closeGroup (r : Reader) : Except PatternError Reader :=
  match r.joined with
  | (inner, .group before span kind spaced :: frames) =>
    let k := { r.cursor.step with spaced }
    let node : Node := .group ⟨span.first, k.place⟩ kind inner
    .ok { r with cursor := k, parts := { before with nodes := before.nodes ++ [node] }, frames }
  | _ => Cursor.refuse .unopenedGroup (r.cursor.spanOf ')')

/-- Takes the end of the pattern. -/
def finish (r : Reader) : Except PatternError Node :=
  match r.joined with
  | (_, .group _ span _ _ :: _) => Cursor.refuse .unclosedGroup span
  | (node, _) => .ok node

/-! ## 2. Counts -/

/-- The part that a count repeats, and the parts in front of it. -/
def repeated (r : Reader) : Except PatternError (List Node × Node) :=
  match r.parts.nodes.getLast? with
  | none | some (.empty _) | some (.settings _ _) =>
    Cursor.refuse .nothingToRepeat r.cursor.place.point
  | some n => .ok (r.parts.nodes.dropLast, n)

/-- Puts a repeated part in the place of the part. -/
def setRepeated (r : Reader) (k : Cursor) (least : Nat) (most? : Option Nat) (before : List Node)
    (inner : Node) : Reader :=
  let node : Node := .times ⟨inner.span.first, k.place⟩ least most? inner
  { r with cursor := k, parts := { r.parts with nodes := before ++ [node] } }

/-- Moves past a question mark, which after a count asks for the shortest match. -/
def pastLazy (k : Cursor) : Cursor :=
  if k.head? = some '?' then k.step else k

/-- Takes a count of one sign. -/
def sign (r : Reader) (least : Nat) (most? : Option Nat) : Except PatternError Reader := do
  let (before, inner) ← r.repeated
  return r.setRepeated (pastLazy r.cursor.step) least most? before inner

/-- A decimal number in a count, with blanks around it, and the cursor after it. -/
def decimal (k : Cursor) : Except PatternError Nat × Cursor :=
  let k := (k.takeWhile Text.isBlank).2
  let (digits, stop) := k.takeWhile Char.isDigit
  let span : Span := ⟨k.place, stop.place⟩
  let n := digits.foldl (fun n c => n * 10 + (c.toNat - '0'.toNat)) 0
  let result :=
    if digits.isEmpty then Cursor.refuse .emptyCount span
    else if n < UInt32.size then .ok n
    else Cursor.refuse .badDecimal span
  (result, (stop.takeWhile Text.isBlank).2)

/-- Takes a count in braces. -/
def count (r : Reader) : Except PatternError Reader := do
  let (before, inner) ← r.repeated
  let start := r.cursor.place
  let ended (k : Cursor) : Except PatternError Unit :=
    if k.rest.isEmpty then Cursor.refuse .unclosedCount ⟨start, k.place⟩ else .ok ()
  let k := r.cursor.advance
  ended k
  let (first, k) := decimal k
  ended k
  let (least, most?, k) ← do
    if k.head? = some ',' then
      let k := k.advance
      ended k
      if k.head? = some '\x7d' then pure (← first, none, k)
      else
        let least ← first
        let (second, k) := decimal k
        pure (least, some (← second), k)
    else
      let n ← first
      pure (n, some n, k)
  if k.head? ≠ some '\x7d' then Cursor.refuse .unclosedCount ⟨start, k.place⟩
  let k := pastLazy k.advance
  if most?.any (· < least) then Cursor.refuse .reversedCount ⟨start, k.place⟩
  return r.setRepeated k least most? before inner

/-! ## 3. Whole patterns -/

/-- Takes a part that is read in one go. -/
def atom (r : Reader) (c : Char) : Except PatternError Reader :=
  let k := r.cursor
  match c with
  | '\\' => k.escape.map fun (a, stop) => r.add stop (.atom a)
  | '.' => .ok (r.add k.step (.atom (.dot (k.spanOf c))))
  | '^' => .ok (r.add k.step (.atom (.anchor (k.spanOf c) .lineStart)))
  | '$' => .ok (r.add k.step (.atom (.anchor (k.spanOf c) .lineEnd)))
  | c => .ok (r.add k.step (.atom (.literal { span := k.spanOf c, char := c })))

/-- One step: the next part, or the end. -/
def step (r : Reader) : Except PatternError (Reader ⊕ Node) :=
  let r := { r with cursor := r.cursor.skipBlanks }
  match r.cursor.head? with
  | none => r.finish.map .inr
  | some '(' => r.openGroup.map .inl
  | some ')' => r.closeGroup.map .inl
  | some '|' => .ok (.inl r.branch)
  | some '[' =>
    r.cursor.bracketed.map fun (b, k) => .inl (r.add k (.bracketed b.span b.negated b.inner))
  | some '?' => (r.sign 0 (some 1)).map .inl
  | some '*' => (r.sign 0 none).map .inl
  | some '+' => (r.sign 1 none).map .inl
  | some '\x7b' => r.count.map .inl
  | some c => (r.atom c).map .inl

end Reader

/-! ## 4. Depth -/

mutual

/-- The first item of a class that is nested too deeply, at a level of its own. -/
def ClassItem.tooDeep? (level : Nat) : ClassItem → Option Span
  | .union span items =>
    if nestLimit < level + 1 then some span else ClassItem.anyTooDeep? (level + 1) items
  | .bracketed span _ inner =>
    if nestLimit < level + 1 then some span else inner.tooDeep? (level + 1)
  | .combined span _ left right =>
    if nestLimit < level + 1 then some span
    else (left.tooDeep? (level + 1)).or (right.tooDeep? (level + 1))
  | _ => none

/-- The first of several items that is nested too deeply. -/
def ClassItem.anyTooDeep? (level : Nat) : List ClassItem → Option Span
  | [] => none
  | i :: is => (i.tooDeep? level).or (ClassItem.anyTooDeep? level is)

end

mutual

/-- The first part that is nested too deeply, at a level of its own. -/
def Node.tooDeep? (level : Nat) : Node → Option Span
  | .empty _ | .settings _ _ | .atom _ => none
  | .bracketed span _ inner =>
    if nestLimit < level + 1 then some span else inner.tooDeep? (level + 1)
  | .times span _ _ inner =>
    if nestLimit < level + 1 then some span else inner.tooDeep? (level + 1)
  | .group span _ inner =>
    if nestLimit < level + 1 then some span else inner.tooDeep? (level + 1)
  | .branches span nodes =>
    if nestLimit < level + 1 then some span else Node.anyTooDeep? (level + 1) nodes
  | .sequence span nodes =>
    if nestLimit < level + 1 then some span else Node.anyTooDeep? (level + 1) nodes

/-- The first of several parts that is nested too deeply. -/
def Node.anyTooDeep? (level : Nat) : List Node → Option Span
  | [] => none
  | n :: ns => (n.tooDeep? level).or (Node.anyTooDeep? level ns)

end

/-- The fault of a pattern whose end is not found. -/
def Reader.stuck (r : Reader) : PatternError :=
  { cause := .unclosedGroup, span := r.cursor.place.point }

/-- Reads a pattern. -/
def Node.ofText (pattern : String) : Except PatternError Node := do
  let node ← Cursor.descend Reader.cursor Reader.step Reader.stuck (.start pattern)
  match node.tooDeep? 0 with
  | some span => Cursor.refuse .tooNested span
  | none => return node

end Tribase.Pattern
