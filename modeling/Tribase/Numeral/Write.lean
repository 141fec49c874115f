import Tribase.Octets.Basic

/-!
# Writing numerals

* `decimal` has no leading zero, and `0` for zero: the bytes are divided by ten until nothing is
  left, and each remainder is a digit;
* `hexadecimal` and `binary` write every byte, after a mark, at a least number of bytes;
* `hexDigits` and `bitDigits` are the same digits without the leading zeros.
-/

namespace Tribase.Octets

/-! ## 1. Decimal -/

/-- The decimal digits of the number spelled by the bytes, in front of the digits already found. -/
def decimalDigits (bytes : List UInt8) (found : List Char) : List Char :=
  match _h : bytes.dropWhile (· == 0) with
  | [] => found
  | top :: rest =>
    decimalDigits (Byte.longDivide 10 0 (top :: rest)).1
      (Nat.digitChar (Byte.longDivide 10 0 (top :: rest)).2.toNat :: found)
termination_by Byte.valueHigh bytes
decreasing_by
  have hne : top ≠ 0 := by
    have := List.head?_dropWhile_not (· == 0) bytes
    simpa [_h] using this
  have hpos := Byte.valueHigh_pos hne rest
  have hdiv := @Byte.longDivide_value 10 0 (by decide) 0 (top :: rest)
  have hval := Byte.valueHigh_dropWhile_zero bytes
  rw [_h] at hval
  have hten : (10 : UInt8).toNat = 10 := rfl
  have hzero : (0 : UInt8).toNat = 0 := rfl
  simp only [hten, hzero, Nat.zero_mul, Nat.zero_add] at hdiv
  change Byte.valueHigh _ * 10 + _ = Byte.valueHigh _ at hdiv
  omega

/-- The decimal numeral. -/
def decimal (x : Octets) : String :=
  match decimalDigits x.bytes [] with
  | [] => "0"
  | digits => String.ofList digits

/-! ## 2. Hexadecimal and binary -/

/-- The two hexadecimal digits of a byte. -/
def hexByte (x : UInt8) : List Char :=
  [Nat.digitChar (x.toNat / 16), Nat.digitChar (x.toNat % 16)]

/-- The eight binary digits of a byte. -/
def bitByte (x : UInt8) : List Char :=
  (List.range 8).map fun i => if x.toNat.testBit (7 - i) then '1' else '0'

/-- Two lower case hexadecimal digits for every byte. -/
def hexBytes (x : Octets) : List Char :=
  x.bytes.flatMap hexByte

/-- Eight binary digits for every byte. -/
def bitBytes (x : Octets) : List Char :=
  x.bytes.flatMap bitByte

/-- The mark `0x` and two digits for every byte, of which there are at least `least`. -/
def hexadecimal (x : Octets) (least : Nat) : String :=
  String.ofList ('0' :: 'x' :: (x.zeroExtend least).hexBytes)

/-- The mark `0b` and eight digits for every byte, of which there are at least `least`. -/
def binary (x : Octets) (least : Nat) : String :=
  String.ofList ('0' :: 'b' :: (x.zeroExtend least).bitBytes)

/-- The digits from the first one that is not `0`, and `0` alone where there is none. -/
def significant (digits : List Char) : List Char :=
  match digits.dropWhile (· == '0') with
  | [] => ['0']
  | ds => ds

/-- The shortest hexadecimal numeral, in lower case. -/
def hexDigits (x : Octets) : String :=
  String.ofList (significant x.trim.hexBytes)

/-- The shortest hexadecimal numeral, in upper case. -/
def upperHexDigits (x : Octets) : String :=
  String.ofList ((significant x.trim.hexBytes).map Char.toUpper)

/-- The shortest binary numeral. -/
def bitDigits (x : Octets) : String :=
  String.ofList (significant x.bitBytes)

/-- The bytes as they stand inside a described value. -/
def inspect (x : Octets) : String :=
  s!"ByteVec({x.hexadecimal 0})"

end Tribase.Octets
