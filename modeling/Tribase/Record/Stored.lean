import Tribase.Numeral.Read
import Tribase.Numeral.Write
import Tribase.Record.Datum

/-!
# Stored integers

An octet string is stored as its length and its shortest hexadecimal numeral. Loading reads the
numeral and puts the leading zero bytes back, as long as they are not too many.

* `Octets.stored` and `Stored.load` go there and back;
* `Stored.ofEntries` reads the two fields from entries in any order, `Stored.ofList` from a list;
* `Octets.ofEntries` and `Octets.ofDatum` read and load in one;
* `Stored.toFrame` and `Octets.ofFrame` are the binary form: the length in eight bytes, the number
  of bytes of the text in eight bytes, and the text in UTF-8. Both counts have their least
  significant byte first. What follows the text is not looked at.
-/

namespace Tribase

/-- An octet string in store: the number of its bytes, and its value in hexadecimal. -/
@[ext] structure Stored where
  len : Nat
  bits : String
deriving DecidableEq, Repr

/-- The stored form. -/
def Octets.stored (x : Octets) : Stored :=
  ⟨x.length, x.hexDigits⟩

namespace Stored

/-- The octet string of exactly `len` bytes with the value of `bits`. -/
def load (s : Stored) : Except LoadError Octets :=
  match Octets.readRadix s.bits 16 with
  | .error e => .error (.numeral e)
  | .ok x =>
    if s.len < x.length then
      .error (.tooShort x.length s.len)
    else if PadCap.standard.isCapped (s.len - x.length) then
      .error (.tooManyZeros s.len (s.len - x.length) PadCap.standard.bytes)
    else
      .ok (x.pad (s.len - x.length) .standard)

/-! ## 1. Single values -/

/-- The fields of a stored integer. -/
inductive Key where
  | len
  | bits
deriving DecidableEq, Repr

/-- The field that a key names. -/
def readKey : Datum → Except RecordError Key
  | .text "len" _ => .ok .len
  | .text "bits" _ => .ok .bits
  | .text s _ => .error (.unknownField s)
  | d => .error (.wrongKind d.found .fieldName)

/-- A count that fits in a machine word. -/
def readCount : Datum → Except RecordError Nat
  | .integer (.ofNat n) =>
    if n < UInt64.size then .ok n else .error (.wrongValue (.integer n) .count)
  | .integer n => .error (.wrongValue (.integer n) .count)
  | d => .error (.wrongKind d.found .count)

/-- A text that is lent. -/
def readBits : Datum → Except RecordError String
  | .text s true => .ok s
  | d => .error (.wrongKind d.found .lentText)

/-! ## 2. Whole records -/

/-- Reads the entries in order, with the fields already found. A field that comes again is refused
    before its value is looked at; missing fields are looked for at the end. -/
def collect : Option Nat → Option String → List (Datum × Datum) → Except RecordError Stored
  | none, _, [] => .error (.missingField "len")
  | some _, none, [] => .error (.missingField "bits")
  | some len, some bits, [] => .ok ⟨len, bits⟩
  | len?, bits?, (key, d) :: entries =>
    match readKey key with
    | .error e => .error e
    | .ok .len =>
      if len?.isSome then .error (.duplicateField "len")
      else
        match readCount d with
        | .error e => .error e
        | .ok len => collect (some len) bits? entries
    | .ok .bits =>
      if bits?.isSome then .error (.duplicateField "bits")
      else
        match readBits d with
        | .error e => .error e
        | .ok bits => collect len? (some bits) entries

/-- Reads length and digits from entries in any order. -/
def ofEntries (entries : List (Datum × Datum)) : Except RecordError Stored :=
  collect none none entries

/-- Reads length and digits from the first two elements. -/
def ofList : List Datum → Except RecordError Stored
  | [] => .error (.wrongLength 0 .stored)
  | d :: ds =>
    match readCount d, ds with
    | .error e, _ => .error e
    | .ok _, [] => .error (.wrongLength 1 .stored)
    | .ok len, d :: _ => (readBits d).map (⟨len, ·⟩)

/-- `load`, with its refusal as one of the record. -/
def loadRecord (s : Stored) : Except RecordError Octets :=
  s.load.mapError .content

end Stored

namespace Octets

/-- Reads and loads a record given by its entries. -/
def ofEntries (entries : List (Datum × Datum)) : Except RecordError Octets :=
  match Stored.ofEntries entries with
  | .error e => .error e
  | .ok s => s.loadRecord

/-- Reads and loads a record given as a list. Elements after the second are refused, once all else
    is right. -/
def ofList (items : List Datum) : Except RecordError Octets :=
  match Stored.ofList items with
  | .error e => .error e
  | .ok s =>
    match s.loadRecord with
    | .error e => .error e
    | .ok x => if items.length ≤ 2 then .ok x else .error (.wrongLength items.length .listEnd)

/-- Reads and loads a record given by any value. -/
def ofDatum : Datum → Except RecordError Octets
  | .list items => ofList items
  | .record fields => ofEntries (fields.map fun (name, d) => (.text name true, d))
  | d => .error (.wrongKind d.found .stored)

end Octets

/-! ## 3. Framed bytes -/

/-- Why framed bytes are refused. -/
inductive FrameError where
  /-- The bytes end too early. -/
  | truncated
  /-- The text is not UTF-8. -/
  | badText
  /-- Length and text are there, and make no integer. -/
  | content (e : LoadError)
deriving DecidableEq, Repr

namespace Stored

/-- A count in eight bytes. -/
def countFrame (n : Nat) : List UInt8 :=
  Byte.lowBytes 8 n

/-- The framed form. -/
def toFrame (s : Stored) : List UInt8 :=
  let text := s.bits.toUTF8.data.toList
  countFrame s.len ++ countFrame text.length ++ text

/-- The next `n` bytes, and the bytes after them. -/
def takeBytes (n : Nat) (bytes : List UInt8) : Except FrameError (List UInt8 × List UInt8) :=
  if n ≤ bytes.length then .ok (bytes.take n, bytes.drop n) else .error .truncated

/-- The next count, and the bytes after it. -/
def takeCount (bytes : List UInt8) : Except FrameError (Nat × List UInt8) :=
  (takeBytes 8 bytes).map fun (count, rest) => (Byte.valueLow count, rest)

/-- Reads the framed form from the front of the bytes. -/
def ofFrame (bytes : List UInt8) : Except FrameError Stored := do
  let (len, rest) ← takeCount bytes
  let (size, rest) ← takeCount rest
  let (text, _) ← takeBytes size rest
  match String.fromUTF8? ⟨text.toArray⟩ with
  | some bits => .ok ⟨len, bits⟩
  | none => .error .badText

end Stored

/-- Reads and loads framed bytes. -/
def Octets.ofFrame (bytes : List UInt8) : Except FrameError Octets := do
  let s ← Stored.ofFrame bytes
  s.load.mapError .content

end Tribase
