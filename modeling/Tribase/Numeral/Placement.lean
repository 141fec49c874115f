import Tribase.Numeral.Write

/-!
# Numbers in a field

A number is laid out in a field of a least width. A field asks for a sign, for the mark of the
radix, and for what fills the space that is left: either zeros between mark and digits, or a fill
character at the sides.

* `Placement.ofFlags?` reads the short form of a field: `[[fill]align][sign][#][0]`;
* `Placement.layOut` places mark and digits;
* `Octets.format` writes an integer in one of its styles.
-/

namespace Tribase

/-- Where a text stands in a field that is wider than it. -/
inductive Align where
  | left
  | center
  | right
deriving DecidableEq, Repr

/-- How a number is laid out. -/
structure Placement where
  /-- The character that fills the space at the sides. -/
  fill : Char := ' '
  /-- Where the text stands. -/
  align : Align := .right
  /-- Whether a plus sign is written. -/
  plus : Bool := false
  /-- Whether the mark of the radix is written. -/
  mark : Bool := false
  /-- Whether zeros fill the space, between mark and digits. -/
  zeros : Bool := false
  /-- The least number of characters. -/
  width : Nat := 0
deriving DecidableEq, Repr

namespace Placement

/-! ## 1. The short form -/

/-- The character that names an alignment. -/
def alignOf? : Char → Option Align
  | '<' => some .left
  | '^' => some .center
  | '>' => some .right
  | _ => none

/-- Fill and alignment, where the flags start with them. A character in front of an alignment is the
    fill, also where it names an alignment itself. -/
def readAlign (f : Placement) : List Char → Placement × List Char
  | [] => (f, [])
  | [c] =>
    match alignOf? c with
    | some a => ({ f with align := a }, [])
    | none => (f, [c])
  | c :: d :: cs =>
    match alignOf? d, alignOf? c with
    | some a, _ => ({ f with fill := c, align := a }, cs)
    | none, some a => ({ f with align := a }, d :: cs)
    | none, none => (f, c :: d :: cs)

/-- The sign, where the flags start with one; a minus asks for nothing. -/
def readSign (f : Placement) : List Char → Placement × List Char
  | '+' :: cs => ({ f with plus := true }, cs)
  | '-' :: cs => (f, cs)
  | cs => (f, cs)

/-- The wish for a mark, where the flags start with it. -/
def readMark (f : Placement) : List Char → Placement × List Char
  | '#' :: cs => ({ f with mark := true }, cs)
  | cs => (f, cs)

/-- The wish for zeros, where the flags start with it. -/
def readZeros (f : Placement) : List Char → Placement × List Char
  | '0' :: cs => ({ f with zeros := true }, cs)
  | cs => (f, cs)

/-- The field that the flags ask for, at the given width. -/
def ofFlags? (flags : String) (width : Nat) : Option Placement :=
  let (f, cs) := readAlign { width } flags.toList
  let (f, cs) := f.readSign cs
  let (f, cs) := f.readMark cs
  let (f, cs) := f.readZeros cs
  if cs.isEmpty then some f else none

/-! ## 2. Layout -/

/-- Sign, mark and digits in the field. -/
def layOut (f : Placement) (mark digits : String) : String :=
  let front := (if f.plus then ['+'] else []) ++ (if f.mark then mark.toList else [])
  let room := f.width - (front.length + digits.length)
  if f.zeros then
    String.ofList (front ++ List.replicate room '0' ++ digits.toList)
  else
    let before :=
      match f.align with
      | .left => 0
      | .center => room / 2
      | .right => room
    String.ofList <|
      List.replicate before f.fill ++ front ++ digits.toList ++ List.replicate (room - before) f.fill

end Placement

/-- The ways to write an integer. -/
inductive Style where
  | decimal
  | lowerHex
  | upperHex
  | binary
  /-- Every byte, with the name of the type; no field applies. -/
  | inspected
deriving DecidableEq, Repr

/-- The integer in a style, laid out in a field. -/
def Octets.format (x : Octets) (style : Style) (f : Placement) : String :=
  match style with
  | .decimal => f.layOut "" x.decimal
  | .lowerHex => f.layOut "0x" x.hexDigits
  | .upperHex => f.layOut "0x" x.upperHexDigits
  | .binary => f.layOut "0b" x.bitDigits
  | .inspected => x.inspect

end Tribase
