/-!
# Floating point numbers in messages

A binary floating point number stands for an interval of reals: all that round to it. Its shortest
decimal is the one with the fewest digits in that interval, and of those the one nearest to the
number; a tie goes to the even digit.

* `Real64` is a number by its 64 bits, with `significand` and `exponent` as its exact value;
* `Real64.shortest` finds digits and power of ten by trying one grid of powers of ten after another,
  in exact arithmetic;
* `Real64.describe` lays them out, with a point in any positional form: positional while the leading
  digit stands for `10 ^ -5` to `10 ^ 15`, and with an exponent, which always has a sign, outside of
  that.
-/

namespace Tribase

/-- A binary floating point number, by its 64 bits: sign, eleven bits of exponent, fraction. -/
structure Real64 where
  bits : UInt64
deriving DecidableEq, Repr

namespace Real64

/-! ## 1. The exact value -/

/-- Whether the sign bit is set; zero has a sign too. -/
def isNegative (x : Real64) : Bool :=
  x.bits.toNat.testBit 63

/-- The exponent field. -/
def exponentBits (x : Real64) : Nat :=
  x.bits.toNat / Nat.pow 2 52 % 2048

/-- The fraction field. -/
def fractionBits (x : Real64) : Nat :=
  x.bits.toNat % Nat.pow 2 52

/-- The magnitude is `significand * 2 ^ exponent`. -/
def significand (x : Real64) : Nat :=
  if x.exponentBits = 0 then x.fractionBits else x.fractionBits + Nat.pow 2 52

/-- The power of two of the magnitude. -/
def exponent (x : Real64) : Int :=
  if x.exponentBits = 0 then -1074 else (x.exponentBits : Int) - 1075

/-! ## 2. The interval, on a grid

A quarter of the last place is the unit: the number is `4 * significand` of them. On the grid of `10
^ k` every quantity is scaled by the same factors, so that only natural numbers are compared. -/

/-- The factor of a unit on the grid of `10 ^ k`. -/
def unitScale (x : Real64) (k : Int) : Nat :=
  Nat.pow 2 (x.exponent - 2).toNat * Nat.pow 10 (-k).toNat

/-- The factor of a grid step on the grid of `10 ^ k`. -/
def gridScale (x : Real64) (k : Int) : Nat :=
  Nat.pow 2 (2 - x.exponent).toNat * Nat.pow 10 k.toNat

/-- The units from the lower end of the interval to the number: half a place, or a quarter where the
    numbers below lie closer. -/
def unitsBelow (x : Real64) : Nat :=
  if x.fractionBits = 0 ∧ 1 < x.exponentBits then 1 else 2

/-- Whether `d * 10 ^ k` rounds to the number. The ends of the interval do where the significand is
    even. -/
def readsBack (x : Real64) (d : Nat) (k : Int) : Bool :=
  let low := (4 * x.significand - x.unitsBelow) * x.unitScale k
  let high := (4 * x.significand + 2) * x.unitScale k
  let here := d * x.gridScale k
  if x.significand % 2 = 0 then low ≤ here && here ≤ high else low < here && here < high

/-- The greatest point of the grid of `10 ^ k` that is not above the number. -/
def floorOn (x : Real64) (k : Int) : Nat :=
  4 * x.significand * x.unitScale k / x.gridScale k

/-- The point of the grid of `10 ^ k` next to the number that rounds to it: the nearer one of two,
    the even one in a tie. -/
def pick? (x : Real64) (k : Int) : Option Nat :=
  let d := x.floorOn k
  match x.readsBack d k, x.readsBack (d + 1) k with
  | true, true =>
    let here := 2 * (4 * x.significand * x.unitScale k)
    let middle := (2 * d + 1) * x.gridScale k
    if here < middle ∨ (here = middle ∧ d % 2 = 0) then some d else some (d + 1)
  | true, false => some d
  | false, true => some (d + 1)
  | false, false => none

/-! ## 3. The search -/

/-- The power of ten of the leading digit. -/
def leadingPower (x : Real64) : Int :=
  let powers := (List.range 633).map fun (i : Nat) => (308 : Int) - i
  (powers.find? fun k => 1 ≤ x.floorOn k).getD 0

/-- Digits and power of ten without trailing zeros in the digits; `fuel` bounds the zeros. -/
def dropZeros : Nat → Nat → Int → Nat × Int
  | 0, d, k => (d, k)
  | fuel + 1, d, k => if d % 10 = 0 then dropZeros fuel (d / 10) (k + 1) else (d, k)

/-- The shortest decimal `d * 10 ^ k` of a magnitude other than zero: grids of one digit, two digits
    and so on are tried, and seventeen digits always do. -/
def shortest (x : Real64) : Nat × Int :=
  let grids := (List.range 17).map fun (n : Nat) => x.leadingPower - n
  match grids.findSome? fun k => (x.pick? k).map (·, k) with
  | some (d, k) => dropZeros 17 d k
  | none => (x.floorOn 0, 0)

/-! ## 4. The layout -/

/-- Digits and power of ten, laid out. `point` is the place of the decimal point in the digits. -/
def layOut (d : Nat) (k : Int) : String :=
  let digits := Nat.toDigits 10 d
  let point : Int := digits.length + k
  String.ofList <|
    if 0 ≤ k ∧ point ≤ 16 then
      digits ++ List.replicate k.toNat '0' ++ ['.', '0']
    else if 0 < point ∧ point ≤ 16 then
      digits.take point.toNat ++ '.' :: digits.drop point.toNat
    else if -5 < point ∧ point ≤ 0 then
      '0' :: '.' :: (List.replicate (-point).toNat '0' ++ digits)
    else
      digits.take 1 ++ (if digits.length = 1 then [] else '.' :: digits.drop 1) ++
        'e' :: (if 0 < point then '+' else '-') :: Nat.toDigits 10 (point - 1).natAbs

/-- The number as it is shown in a message. -/
def describe (x : Real64) : String :=
  let sign := if x.isNegative then "-" else ""
  if x.exponentBits = 2047 then
    if x.fractionBits = 0 then sign ++ "inf" else "NaN"
  else if x.significand = 0 then
    sign ++ "0.0"
  else
    sign ++ layOut x.shortest.1 x.shortest.2

end Real64

end Tribase
