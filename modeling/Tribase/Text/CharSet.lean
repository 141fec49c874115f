/-!
# Sets of characters

A set of characters is given by its edges, in ascending order: the code points at which membership
begins or ends. A character belongs to the set if an odd number of edges has been passed there.

All operations on two sets are one walk over their edges, `merge`, which keeps an edge wherever the
combined membership changes.
-/

namespace Tribase.Text

/-- A set of characters, by its edges. -/
structure CharSet where
  edges : List Nat
deriving DecidableEq, Repr

namespace CharSet

/-- Whether a character belongs to the set. -/
def has (s : CharSet) (c : Char) : Bool :=
  (s.edges.takeWhile (· ≤ c.toNat)).length % 2 = 1

/-- The set without members. -/
def empty : CharSet := ⟨[]⟩

/-- Whether the set has no members. -/
def isEmpty (s : CharSet) : Bool :=
  s.edges.isEmpty

/-- The code point after the given one, where the range that no character has is left out. -/
def following (n : Nat) : Nat :=
  if n = 0xd7ff then 0xe000 else n + 1

/-- The characters from one to another. -/
def range (low high : Char) : CharSet :=
  ⟨[low.toNat, following high.toNat]⟩

/-- A single character. -/
def only (c : Char) : CharSet :=
  range c c

/-- The code points below a bound. -/
def below (bound : Nat) : CharSet :=
  ⟨[0, bound]⟩

/-- All characters. -/
def all : CharSet :=
  below 0x110000

/-- Keeps an edge in front of the others if membership changes there. -/
def keepEdge (before after : Bool) (edge : Nat) (edges : List Nat) : List Nat :=
  if before = after then edges else edge :: edges

/-- The edges of a combined set. `p` and `q` say whether the walk is inside the two sets. -/
def merge (f : Bool → Bool → Bool) (p q : Bool) : List Nat → List Nat → List Nat
  | [], [] => []
  | x :: xs, [] => keepEdge (f p q) (f (!p) q) x (merge f (!p) q xs [])
  | [], y :: ys => keepEdge (f p q) (f p (!q)) y (merge f p (!q) [] ys)
  | x :: xs, y :: ys =>
    if x < y then keepEdge (f p q) (f (!p) q) x (merge f (!p) q xs (y :: ys))
    else if y < x then keepEdge (f p q) (f p (!q)) y (merge f p (!q) (x :: xs) ys)
    else keepEdge (f p q) (f (!p) (!q)) x (merge f (!p) (!q) xs ys)
termination_by a b => a.length + b.length

/-- The members of one set or the other. -/
def union (a b : CharSet) : CharSet :=
  ⟨merge (· || ·) false false a.edges b.edges⟩

/-- The members of both sets. -/
def intersection (a b : CharSet) : CharSet :=
  ⟨merge (· && ·) false false a.edges b.edges⟩

/-- The members of the first set that are not in the second. -/
def difference (a b : CharSet) : CharSet :=
  ⟨merge (fun p q => p && !q) false false a.edges b.edges⟩

/-- The members of exactly one of the sets. -/
def symmetricDifference (a b : CharSet) : CharSet :=
  ⟨merge (· != ·) false false a.edges b.edges⟩

/-- The members of several ranges. -/
def ofRanges (ranges : List (Char × Char)) : CharSet :=
  ranges.foldl (fun s (low, high) => s.union (range low high)) empty

/-- Whether all members are below 128. -/
def isBasic (s : CharSet) : Bool :=
  s.edges.all (· ≤ 0x80)

/-- The set with, for each basic letter in it, its other case. -/
def withBothCases (s : CharSet) : CharSet :=
  let lower := s.intersection (range 'a' 'z')
  let upper := s.intersection (range 'A' 'Z')
  (s.union ⟨lower.edges.map (· - 32)⟩).union ⟨upper.edges.map (· + 32)⟩

end CharSet

end Tribase.Text
