import Tribase.Octets.Basic
import Tribase.Text.Plain

/-!
# Arguments

The command line is a list of texts: numbers, the width `-b` or `--bits` with its value, and the
wishes for help or version. `Word.ofText` says what a text is by itself, and `Request.ofArgs` reads
the list from left to right.

A width that stands in a text of its own is taken down first and checked when the next known word,
or the end, comes; so an unknown word after it is reported before it.
-/

namespace Tribase

/-! ## 1. The width -/

/-- The greatest width in bits: as many bytes as are padded without a wish of one's own. -/
def maxBits : Nat :=
  8 * PadCap.standard.bytes

/-- Why a text is no width. -/
inductive WidthError where
  | empty
  | badDigit
  | tooLarge
  | outOfRange (n : Nat)
deriving DecidableEq, Repr

/-- The text shown for the cause. -/
def WidthError.message : WidthError → String
  | .empty => "cannot parse integer from empty string"
  | .badDigit => "invalid digit found in string"
  | .tooLarge => "number too large to fit in target type"
  | .outOfRange n => s!"{n} is not in 1..={maxBits}"

/-- Decimal digits of a machine word, after the number read so far. The first fault from the left
    counts. -/
def readWord (n : Nat) : List Char → Except WidthError Nat
  | [] => .ok n
  | c :: cs =>
    if c.isDigit then
      let m := n * 10 + (c.toNat - '0'.toNat)
      if m < UInt64.size then readWord m cs else .error .tooLarge
    else
      .error .badDigit

/-- A machine word: an optional `+`, then decimal digits. -/
def readSigned : List Char → Except WidthError Nat
  | [] => .error .empty
  | ['+'] => .error .badDigit
  | '+' :: cs => readWord 0 cs
  | cs => readWord 0 cs

/-- A width: a machine word from one to `maxBits`. -/
def readWidth (text : String) : Except WidthError Nat :=
  match readSigned text.toList with
  | .error e => .error e
  | .ok n => if 1 ≤ n ∧ n ≤ maxBits then .ok n else .error (.outOfRange n)

/-! ## 2. Single words -/

/-- What a text of the command line is by itself. -/
inductive Word where
  /-- A number, or the value of an option in front of it. -/
  | plain
  /-- The mark after which every text is a number. -/
  | marker
  | help
  | version
  /-- The width, with its value where that is in the same text. -/
  | width (value? : Option String)
  /-- An option without a value, with a value. -/
  | unneeded (option value : String)
  /-- No option; only its name is shown. -/
  | unknown (shown : String)
deriving DecidableEq, Repr

/-- Whether the text reads as a decimal number: digits, then perhaps a point, digits, an exponent
    mark and more digits. -/
def isDecimal (cs : List Char) : Bool :=
  let isExp (c : Char) : Bool := c == 'e' || c == 'E'
  let tail := (cs.dropWhile Char.isDigit)
  let rest :=
    match tail with
    | '.' :: rest => rest.dropWhile Char.isDigit
    | rest => rest
  let starts := !(cs.takeWhile Char.isDigit).isEmpty
  match rest with
  | [] => starts
  | c :: digits => starts && isExp c && !digits.isEmpty && digits.all Char.isDigit

namespace Word

/-- A word that starts with two dashes: a name, perhaps with `=` and a value. -/
def ofLong (cs : List Char) : Word :=
  let name := String.ofList (cs.takeWhile (· != '='))
  let value? :=
    match cs.dropWhile (· != '=') with
    | [] => none
    | _ :: value => some (String.ofList value)
  match name, value? with
  | "bits", _ => .width value?
  | "help", none => .help
  | "help", some value => .unneeded "--help" value
  | "version", none => .version
  | "version", some value => .unneeded "--version" value
  | _, _ => .unknown ("--" ++ name)

/-- A word that starts with one dash: a letter, and what follows it. -/
def ofShort (letter : Char) (cs : List Char) : Word :=
  match letter with
  | 'b' =>
    match cs with
    | [] => .width none
    | '=' :: value => .width (some (String.ofList value))
    | value => .width (some (String.ofList value))
  | 'h' => .help
  | 'V' => .version
  | _ => .unknown (String.ofList ['-', letter])

/-- What a text is by itself. A dash in front of a decimal number makes no option. -/
def ofText (text : String) : Word :=
  match text.toList with
  | ['-', '-'] => .marker
  | '-' :: '-' :: cs => ofLong cs
  | '-' :: c :: cs => if isDecimal (c :: cs) then .plain else ofShort c cs
  | _ => .plain

end Word

/-! ## 3. The whole line -/

/-- What the program is asked to report. -/
structure Arguments where
  bits : Nat := 32
  numbers : List String := []
deriving DecidableEq, Repr

/-- What the command line asks for. -/
inductive Request where
  | help
  | version
  | report (a : Arguments)
deriving DecidableEq, Repr

/-- Why a command line is refused. -/
inductive ArgumentError where
  /-- The width has no value. -/
  | missingValue
  /-- The value is no width. -/
  | badValue (written : String) (reason : WidthError)
  /-- The width is given twice. -/
  | repeated
  /-- An option that takes no value has one. -/
  | unneeded (option value : String)
  | unknown (shown : String)
deriving DecidableEq, Repr

/-- The text shown for the cause. What was written is shown without control sequences. -/
def ArgumentError.message : ArgumentError → String
  | .missingValue => "error: a value is required for '--bits <BITS>' but none was supplied"
  | .badValue written reason =>
    let shown := Text.plain written
    s!"error: invalid value '{shown}' for '--bits <BITS>': {reason.message}"
  | .repeated => "error: the argument '--bits <BITS>' cannot be used multiple times"
  | .unneeded option value =>
    let shown := Text.plain value
    s!"error: unexpected value '{shown}' for '{option}' found; no more were expected"
  | .unknown name =>
    let shown := Text.plain name
    s!"error: unexpected argument '{shown}' found"

/-- A width that is not checked yet. -/
inductive Pending where
  | none
  /-- Its value is to come. -/
  | awaited
  | given (value : String)
deriving DecidableEq, Repr

/-- What has been read of the command line. -/
structure Progress where
  bits? : Option Nat := none
  numbers : List String := []
  pending : Pending := .none
deriving DecidableEq, Repr

namespace Progress

/-- Takes a width. -/
def setWidth (p : Progress) (value : String) : Except ArgumentError Progress :=
  if p.bits?.isSome then .error .repeated
  else
    match readWidth value with
    | .ok n => .ok { p with bits? := some n, pending := .none }
    | .error e => .error (.badValue value e)

/-- Checks the width that was taken down. -/
def settle (p : Progress) : Except ArgumentError Progress :=
  match p.pending with
  | .none => .ok p
  | .awaited => .error .missingValue
  | .given value => p.setWidth value

/-- Takes a plain text: the value that is awaited, or a number. -/
def takePlain (p : Progress) (text : String) : Except ArgumentError Progress :=
  match p.pending with
  | .awaited => .ok { p with pending := .given text }
  | _ => p.settle.map fun p => { p with numbers := p.numbers ++ [text] }

/-- Takes texts that are all numbers. -/
def takeNumbers (p : Progress) (texts : List String) : Except ArgumentError Progress :=
  p.settle.map fun p => { p with numbers := p.numbers ++ texts }

/-- What the whole line asks for. -/
def finish (p : Progress) : Except ArgumentError Request :=
  p.settle.map fun p => .report { bits := p.bits?.getD 32, numbers := p.numbers }

/-- Reads on from left to right. The first fault, and the first wish for help or version, ends
    it. -/
def read (p : Progress) : List String → Except ArgumentError Request
  | [] => p.finish
  | text :: texts =>
    match Word.ofText text with
    | .plain => do (← p.takePlain text).read texts
    | .marker => do (← p.takeNumbers texts).finish
    | .help => p.settle.map fun _ => .help
    | .version => p.settle.map fun _ => .version
    | .width none => do
      let p ← p.settle
      read { p with pending := .awaited } texts
    | .width (some value) => do
      let p ← p.settle
      (← p.setWidth value).read texts
    | .unneeded option value => .error (.unneeded option value)
    | .unknown shown => .error (.unknown shown)

end Progress

/-- Reads a command line. -/
def Request.ofArgs (args : List String) : Except ArgumentError Request :=
  Progress.read {} args

end Tribase
