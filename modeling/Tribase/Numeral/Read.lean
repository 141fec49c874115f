import Tribase.Numeral.Basic
import Tribase.Octets.Basic

/-!
# Reading numerals

* `scaleAdd` is one step of the reader: the number read so far times the radix plus one more digit,
  on bytes with the least significant one first;
* `readRadix` reads the digits of one radix, with `_` between them at will;
* `readLiteral` reads a literal: an optional `+`, then a radix mark `0x`, `0o`, `0b` or a bare `0`
  for octal, then digits.

What is read has no leading zero byte.
-/

namespace Tribase.Octets

/-! ## 1. Digits of one radix -/

/-- The number spelled by the bytes, least significant first, times `radix` plus `carry`. A carry
    that is left at the end becomes one more byte. -/
def scaleAdd (radix : UInt8) : List UInt8 → UInt8 → List UInt8
  | [], carry => if carry = 0 then [] else [carry]
  | x :: xs, carry =>
    let (low, high) := Byte.mulAdd x radix carry
    low :: scaleAdd radix xs high

/-- The digits of a text in which `_` separates at will; the first character that is neither a digit
    of the radix nor `_` makes it fail. -/
def readDigits (radix : Nat) : List Char → Except NumeralError (List Nat)
  | [] => .ok []
  | c :: cs =>
    if c = '_' then readDigits radix cs
    else
      match digitIn? radix c with
      | none => .error .badChar
      | some d => (readDigits radix cs).map (d :: ·)

/-- The bytes, least significant first, of the number that the digits stand for. -/
def accumulate (radix : UInt8) (digits : List Nat) : List UInt8 :=
  digits.foldl (fun acc d => scaleAdd radix acc (UInt8.ofNat d)) []

/-- The integer that a text of digits stands for in the radix, in its shortest encoding. -/
def readRadix (text : String) (radix : UInt8) : Except NumeralError Octets :=
  if !Estimate.isRadix radix.toNat then
    .error .badRadix
  else if text.isEmpty then
    .error .empty
  else
    match Estimate.bytesBound text.utf8ByteSize radix.toNat, readDigits radix.toNat text.toList with
    | .error e, _ => .error e
    | .ok _, .error e => .error e
    | .ok _, .ok [] => .error .noDigits
    | .ok _, .ok digits => .ok ⟨(accumulate radix digits).reverse⟩

/-! ## 2. Literals -/

/-- The text without one leading `+`. -/
def dropPlus : List Char → List Char
  | '+' :: cs => cs
  | cs => cs

/-- The radix that a literal names, and the digits after the mark. A `0` that is followed by
    anything else is the mark of octal; a `0` alone is a decimal digit. -/
def splitMark : List Char → UInt8 × List Char
  | '0' :: c :: cs =>
    if c = 'x' ∨ c = 'X' then (16, cs)
    else if c = 'o' ∨ c = 'O' then (8, cs)
    else if c = 'b' ∨ c = 'B' then (2, cs)
    else (8, c :: cs)
  | cs => (10, cs)

/-- The integer that a literal stands for, in its shortest encoding. -/
def readLiteral (text : String) : Except NumeralError Octets :=
  match text.toList with
  | [] => .error .empty
  | '-' :: _ => .error .negative
  | cs =>
    match splitMark (dropPlus cs) with
    | (_, []) => .error .noDigits
    | (radix, digits) => readRadix (String.ofList digits) radix

end Tribase.Octets
