import Tribase.Pattern.Error
import Tribase.Text.Plain

/-!
# Reading a pattern

A cursor holds what is left of a pattern and the place where that starts. Where the pattern is
spaced, white space and comments between its parts are passed over.

`Cursor.descend` repeats a step for as long as the rest of the pattern gets shorter, which every
step of a reader makes it.
-/

namespace Tribase.Pattern

open Text (isBlank)

/-- What is left of a pattern. -/
structure Cursor where
  rest : List Char
  place : Place
  /-- White space and comments are passed over. -/
  spaced : Bool
deriving DecidableEq, Repr

namespace Cursor

/-- The start of a pattern. -/
def start (pattern : String) : Cursor :=
  ⟨pattern.toList, .start, false⟩

/-- The next character. -/
def head? (k : Cursor) : Option Char :=
  k.rest.head?

/-- The span of a character here. -/
def spanOf (k : Cursor) (c : Char) : Span :=
  ⟨k.place, k.place.after c⟩

/-- Moves past one character. -/
def step (k : Cursor) : Cursor :=
  match k.rest with
  | [] => k
  | c :: cs => { k with rest := cs, place := k.place.after c }

/-- What is left after white space and comments. -/
def blanksFrom : Bool → List Char → Place → List Char × Place
  | _, [], p => ([], p)
  | true, c :: cs, p => blanksFrom (c != '\n') cs (p.after c)
  | false, c :: cs, p =>
    if isBlank c then blanksFrom false cs (p.after c)
    else if c = '#' then blanksFrom true cs (p.after c)
    else (c :: cs, p)

/-- Moves past white space and comments, where the pattern is spaced. -/
def skipBlanks (k : Cursor) : Cursor :=
  if k.spaced then
    let (rest, place) := blanksFrom false k.rest k.place
    { k with rest, place }
  else k

/-- Moves past one character and the blanks after it. -/
def advance (k : Cursor) : Cursor :=
  k.step.skipBlanks

/-- Moves past the given characters, if they stand here. -/
def past? (k : Cursor) (text : String) : Option Cursor :=
  if text.toList.isPrefixOf k.rest then some (text.toList.foldl (fun k _ => k.step) k) else none

/-- The character after the next one. -/
def second? (k : Cursor) : Option Char :=
  k.rest[1]?

/-- The character after the next one and the blanks that follow it. Of a comment there only the mark
    is passed over. -/
def secondPastBlanks? (k : Cursor) : Option Char :=
  if k.spaced then
    let tail := k.rest.tail
    let shown :=
      match tail.dropWhile isBlank with
      | '#' :: comment => comment.dropWhile isBlank
      | other => other
    shown.head?.or tail.head?
  else k.second?

/-- Refuses the pattern. -/
def refuse {α : Type} (cause : Cause) (span : Span) : Except PatternError α :=
  .error { cause, span }

/-! ## How the rest gets shorter -/

theorem length_blanksFrom_le (b : Bool) (cs : List Char) (p : Place) :
    (blanksFrom b cs p).1.length ≤ cs.length := by
  induction cs generalizing b p with
  | nil => cases b <;> simp [blanksFrom]
  | cons c cs ih =>
    cases b with
    | true =>
      have := ih (c != '\n') (p.after c)
      simp only [blanksFrom, List.length_cons]
      omega
    | false =>
      have h₁ := ih false (p.after c)
      have h₂ := ih true (p.after c)
      simp only [blanksFrom]
      split
      · simp only [List.length_cons]; omega
      · split
        · simp only [List.length_cons]; omega
        · simp

theorem length_skipBlanks_le (k : Cursor) : k.skipBlanks.rest.length ≤ k.rest.length := by
  unfold skipBlanks
  split
  · exact length_blanksFrom_le false k.rest k.place
  · exact Nat.le_refl _

theorem length_advance_lt {k : Cursor} {c : Char} {cs : List Char} (h : k.rest = c :: cs) :
    k.advance.rest.length < k.rest.length := by
  have := length_skipBlanks_le k.step
  have hs : k.step.rest = cs := by simp [step, h]
  rw [hs] at this
  simp only [advance, h, List.length_cons]
  omega

/-- The characters from here on that have a property, without blanks between them. -/
def takeWhile (p : Char → Bool) (k : Cursor) : List Char × Cursor :=
  match _ : k.rest with
  | [] => ([], k)
  | c :: _ =>
    if p c then
      let (cs, stop) := takeWhile p k.advance
      (c :: cs, stop)
    else ([], k)
termination_by k.rest.length
decreasing_by exact length_advance_lt ‹_›

/-- Repeats a step until it comes to a result. A step that does not make the rest shorter ends it
    with the fault `stuck`. -/
def descend {σ α : Type} (cursor : σ → Cursor) (step : σ → Except PatternError (σ ⊕ α))
    (stuck : σ → PatternError) (s : σ) : Except PatternError α :=
  match step s with
  | .error e => .error e
  | .ok (.inr a) => .ok a
  | .ok (.inl s') =>
    if (cursor s').rest.length < (cursor s).rest.length then descend cursor step stuck s'
    else .error (stuck s)
termination_by (cursor s).rest.length

end Cursor

end Tribase.Pattern
