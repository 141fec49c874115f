/-!
# Plain text

* White space: which characters count as such, and texts without them at their ends.
* Lines: what stands between line ends; a carriage return in front of a line end belongs to the line
  end. A text that ends in a line end has no further line after it.
* Text without control sequences. A terminal takes some characters for commands: after the escape
  character a short command, a longer one with parameters, or a whole string follows. Where nobody
  reads them, such sequences are left out, and so are the other control characters but the usual
  blanks. `Reader` says what a terminal takes the next character for, `Reader.next` where it stands
  after it, and `plain` keeps what it would show.
-/

namespace Tribase.Text

/-! ## 1. White space -/

/-- Whether a character is white space. -/
def isBlank (c : Char) : Bool :=
  let n := c.toNat
  c == ' ' || (9 ≤ n && n ≤ 13) || n == 0x85 || n == 0xa0 || n == 0x1680 ||
    (0x2000 ≤ n && n ≤ 0x200a) || n == 0x2028 || n == 0x2029 || n == 0x202f || n == 0x205f ||
    n == 0x3000

/-- The text without white space at its ends. -/
def trim (s : String) : String :=
  String.ofList ((s.toList.dropWhile isBlank).reverse.dropWhile isBlank).reverse

/-! ## 2. Lines -/

/-- A line without a carriage return at its end. -/
def dropReturn (line : String) : String :=
  let cs := line.toList
  if cs.getLast? = some '\r' then String.ofList cs.dropLast else line

/-- The lines of a text, in front of each line end one. What follows the last line end is a line if
    it holds something, and keeps a carriage return. -/
def lines (text : String) : List String :=
  let pieces := text.splitOn "\n"
  pieces.dropLast.map dropReturn ++ pieces.getLast?.toList.filter (!·.isEmpty)

/-! ## 3. Control sequences -/

/-- What a terminal takes the next character for. -/
inductive Reader where
  /-- A character to show. -/
  | shown
  /-- What follows the escape character. -/
  | escape
  /-- The rest of a short command. -/
  | short
  /-- Parameters of a command, which a letter ends. -/
  | parameters
  /-- The start of the parameters of a command to a device. -/
  | device
  /-- More parameters of a command to a device. -/
  | deviceParameters
  /-- Characters after the parameters of a command to a device. -/
  | deviceShort
  /-- A string for a device, which a terminator ends. -/
  | string
  /-- A command to the system, which a bell ends. -/
  | system
deriving DecidableEq, Repr

namespace Reader

/-- Whether `n` lies between two codes. -/
def within (low high n : Nat) : Bool :=
  low ≤ n && n ≤ high

/-- Where the terminal stands after a character below 128. Cancel, substitute and escape count
    everywhere. -/
def next (r : Reader) (n : Nat) : Reader :=
  if n == 0x18 || n == 0x1a then .shown
  else if n == 0x1b then .escape
  else
    match r with
    | .shown => .shown
    | .escape =>
      if within 0x20 0x2f n then .short
      else if n == 0x5b then .parameters
      else if n == 0x5d then .system
      else if n == 0x50 then .device
      else if n == 0x58 || n == 0x5e || n == 0x5f then .string
      else if within 0x30 0x7e n then .shown
      else .escape
    | .short => if within 0x30 0x7e n then .shown else .short
    | .parameters => if within 0x40 0x7e n then .shown else .parameters
    | .device =>
      if within 0x40 0x7e n then .string
      else if within 0x30 0x3f n then .deviceParameters
      else if within 0x20 0x2f n then .deviceShort
      else .device
    | .deviceParameters =>
      if within 0x3c 0x7e n then .string
      else if within 0x20 0x2f n then .deviceShort
      else .deviceParameters
    | .deviceShort => if within 0x30 0x7e n then .string else .deviceShort
    | .string => .string
    | .system => if n == 7 then .shown else .system

/-- Where the terminal stands after a character from 128 on, of which it sees the bytes; it would
    show the character only where it expects one. The byte `0x9c` ends a string. -/
def nextWide (r : Reader) (c : Char) : Reader :=
  match r with
  | .string => if (String.singleton c).toUTF8.toList.contains 0x9c then .shown else .string
  | r => r

/-- Whether a blank is shown in passing. -/
def showsBlanks : Reader → Bool
  | .shown | .escape | .short | .parameters => true
  | _ => false

/-- Whether a character below 128 is shown. -/
def shows (r : Reader) (n : Nat) : Bool :=
  (r == .shown && within 0x20 0x7e n) ||
    (r.showsBlanks && (n == 9 || n == 10 || n == 12 || n == 13))

end Reader

/-- The characters that are shown. Once one is, the following ones are too, up to the first that
    never is; the terminal's standing `r` is resumed there. -/
def plainFrom (running : Bool) (r : Reader) : List Char → List Char
  | [] => []
  | c :: cs =>
    if 0x80 ≤ c.toNat then
      if running || r == .shown then c :: plainFrom true .shown cs
      else plainFrom false (r.nextWide c) cs
    else if (if running then Reader.shown else r).shows c.toNat then
      c :: plainFrom true r cs
    else
      plainFrom false (r.next c.toNat) cs

/-- The text without control sequences. -/
def plain (text : String) : String :=
  String.ofList (plainFrom false .shown text.toList)

end Tribase.Text
