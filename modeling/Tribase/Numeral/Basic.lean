/-!
# Digits and sizes of numerals

* The digits of the radices up to thirty-six are `0` to `9` and then the letters `a` to `z`, in
  either case; `positional` is the number that a list of digits stands for.
* `NumeralError` has the causes for which a numeral is refused, from the first checked to the last,
  and the text shown for each.
* `Estimate` says how many bytes hold every numeral of a given length, and how many digits hold
  every number of a given bit count. The binary logarithm of the radix is taken from a table of
  fixed point numbers that are rounded up, so an estimate is never too small.
-/

namespace Tribase

/-! ## 1. Digits -/

/-- The value of a digit or letter; other characters have none. -/
def digitValue? (c : Char) : Option Nat :=
  if '0' ≤ c ∧ c ≤ '9' then some (c.toNat - '0'.toNat)
  else if 'a' ≤ c ∧ c ≤ 'z' then some (c.toNat - 'a'.toNat + 10)
  else if 'A' ≤ c ∧ c ≤ 'Z' then some (c.toNat - 'A'.toNat + 10)
  else none

/-- The value of a character that is a digit of the radix. -/
def digitIn? (radix : Nat) (c : Char) : Option Nat :=
  (digitValue? c).filter (· < radix)

/-- The number that the digits, most significant first, stand for in the radix. -/
def positional (radix : Nat) (digits : List Nat) : Nat :=
  digits.foldl (fun v d => v * radix + d) 0

theorem digitIn?_lt {radix d : Nat} {c : Char} (h : digitIn? radix c = some d) : d < radix := by
  unfold digitIn? at h
  rw [Option.filter_eq_some_iff] at h
  simpa using h.2

/-! ## 2. Why a numeral is refused -/

/-- Why a text is no numeral, or a size has no bound. -/
inductive NumeralError where
  /-- There is no text. -/
  | empty
  /-- No digit is left once sign and radix mark are taken off. -/
  | noDigits
  /-- A character is no digit of the radix. -/
  | badChar
  /-- The radix is below two or above thirty-six. -/
  | badRadix
  /-- The text has a minus sign. -/
  | negative
  /-- The size exceeds what a machine can address. -/
  | overflow
deriving DecidableEq, Repr, Ord

/-- The text shown for the cause. -/
def NumeralError.message : NumeralError → String
  | .empty => "empty input"
  | .noDigits => "no digits after the sign or radix prefix"
  | .badChar => "invalid character for the radix"
  | .badRadix => "radix is not in the range 2..=36"
  | .negative => "negative numbers are not supported"
  | .overflow => "value does not fit"

/-! ## 3. Size estimates -/

namespace Estimate

/-- The binary logarithms of 2 to 36 in units of `2⁻¹³`, rounded up; the places of 0 and 1 are
    idle. -/
def log2Table : List Nat :=
  [0, 0, 8192, 12985, 16384, 19022, 21177, 22998, 24576, 25969, 27214, 28340, 29369, 30315, 31190,
   32006, 32768, 33485, 34161, 34800, 35406, 35982, 36532, 37058, 37561, 38043, 38507, 38953, 39382,
   39797, 40198, 40585, 40960, 41324, 41677, 42020, 42353]

/-- The reciprocals of the binary logarithms of 2 to 36 in units of `2⁻¹⁵`, rounded up; the places
    of 0 and 1 are idle. -/
def invLog2Table : List Nat :=
  [0, 0, 32768, 20675, 16384, 14113, 12677, 11673, 10923, 10338, 9865, 9473, 9141, 8856, 8607, 8388,
   8192, 8017, 7859, 7714, 7582, 7461, 7349, 7244, 7147, 7057, 6972, 6892, 6817, 6746, 6678, 6615,
   6554, 6496, 6441, 6389, 6339]

/-- Whether a radix has digits: 2 to 36. -/
def isRadix (radix : Nat) : Bool :=
  2 ≤ radix && radix ≤ 36

/-- The greatest size of an object in memory: half of the address space. -/
def maxSize : Nat := UInt64.size / 2 - 1

/-- The size itself, or `overflow` where no object can have it. -/
def checkSize (n : Nat) : Except NumeralError Nat :=
  if n ≤ maxSize then .ok n else .error .overflow

/-- A number of bytes that holds every numeral of `len` digits. -/
def bytesBound (len radix : Nat) : Except NumeralError Nat :=
  if isRadix radix then
    let bits := log2Table.getD radix 0 * (len + 1) / 8192 + 1
    checkSize (bits / 8 + 1)
  else
    .error .badRadix

/-- A number of digits that holds every number of `bits` bits. -/
def charsBound (bits radix : Nat) : Except NumeralError Nat :=
  if isRadix radix then
    checkSize (invLog2Table.getD radix 0 * (bits + 1) / 32768 + 1)
  else
    .error .badRadix

end Estimate

end Tribase
