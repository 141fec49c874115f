import Tribase.Octets.Basic

/-!
# Bits of octet strings

* `onesCount`, `leadingZeros` and `bitLength` count bits of the whole string, and `popcount`, `clz`
  and `nbits` are the same counts as octet strings;
* `toUInt64?` is the machine word of the same value, where there is one;
* `reverseBytes`, `reverseBits`, `swapNibbles` and `reverseBitstring` permute the bits. Leading zero
  bytes count: turned round, they become trailing ones;
* `shiftRight` and `shiftLeft` keep the length: bits that leave at one end are lost, zero bits come
  in at the other. Each byte of the result is put together from two neighbours of the operand.
-/

namespace Tribase.Octets

/-! ## 1. Counts, and machine words -/

/-- The number of one bits. -/
def onesCount (x : Octets) : Nat :=
  x.bytes.foldl (fun n b => n + Byte.onesCount b) 0

/-- The number of zero bits in front of the highest one bit, or all of them. The first byte other
    than zero is looked at, and the zero bytes in front of it count eight each. -/
def leadingZeros (x : Octets) : Nat :=
  match x.bytes[x.leadingZeroBytes]? with
  | some b => 8 * x.leadingZeroBytes + Byte.leadingZeros b
  | none => 8 * x.leadingZeroBytes

/-- The number of bits from the highest one bit down: those of the first byte other than zero, and
    eight for each byte behind it. -/
def bitLength (x : Octets) : Nat :=
  match x.bytes[x.leadingZeroBytes]? with
  | some b => Tribase.bitLength b.toNat + 8 * (x.length - 1 - x.leadingZeroBytes)
  | none => 0

/-- The machine word of the same value, if 64 bits hold it. -/
def toUInt64? (x : Octets) : Option UInt64 :=
  if x.bitLength ≤ 64 then
    some ((x.bytes.drop x.leadingZeroBytes).foldl (fun word b => (word <<< 8) ||| b.toUInt64) 0)
  else
    none

/-- The number of one bits, in its shortest encoding. -/
def popcount (x : Octets) : Octets :=
  ofNat x.onesCount

/-- The number of leading zero bits, in its shortest encoding. -/
def clz (x : Octets) : Octets :=
  ofNat x.leadingZeros

/-- The number of significant bits, in its shortest encoding. -/
def nbits (x : Octets) : Octets :=
  ofNat x.bitLength

/-! ## 2. Reorderings -/

/-- The bytes in reverse; each byte stays as it is. -/
def reverseBytes (x : Octets) : Octets :=
  ⟨x.bytes.reverse⟩

/-- Each byte with its bits in reverse; the bytes keep their places. -/
def reverseBits (x : Octets) : Octets :=
  ⟨x.bytes.map Byte.reverseBits⟩

/-- Each byte with its halves exchanged; the bytes keep their places. -/
def swapNibbles (x : Octets) : Octets :=
  ⟨x.bytes.map Byte.swapNibbles⟩

/-- The whole string of bits in reverse. -/
def reverseBitstring (x : Octets) : Octets :=
  x.reverseBits.reverseBytes

@[simp] theorem length_reverseBytes (x : Octets) : x.reverseBytes.length = x.length :=
  List.length_reverse

@[simp] theorem length_reverseBits (x : Octets) : x.reverseBits.length = x.length :=
  List.length_map ..

@[simp] theorem length_swapNibbles (x : Octets) : x.swapNibbles.length = x.length :=
  List.length_map ..

@[simp] theorem length_reverseBitstring (x : Octets) : x.reverseBitstring.length = x.length := by
  simp [reverseBitstring]

/-! ## 3. Shifts -/

/-- The byte that `bits` places (below eight) to the right bring from `above` and `byte`. -/
def joinRight (bits : Nat) (above byte : UInt8) : UInt8 :=
  if bits = 0 then byte else (byte >>> UInt8.ofNat bits) ||| (above <<< UInt8.ofNat (8 - bits))

/-- The byte that `bits` places (below eight) to the left bring from `byte` and `below`. -/
def joinLeft (bits : Nat) (byte below : UInt8) : UInt8 :=
  if bits = 0 then byte else (byte <<< UInt8.ofNat bits) ||| (below >>> UInt8.ofNat (8 - bits))

/-- The number of bits of the string, as a machine word counts them: the largest word stands for
    more. -/
def wordWidth (x : Octets) : Nat :=
  min (8 * x.length) (UInt64.size - 1)

/-- The integer divided by `2 ^ s`, at the same length: whole bytes move first, then each byte joins
    with the one above it. -/
def shiftRight (x : Octets) (s : Nat) : Octets :=
  if x.wordWidth ≤ s then
    zeros x.length
  else
    let moved := (List.replicate (s / 8) 0 ++ x.bytes).take x.length
    ⟨List.zipWith (joinRight (s % 8)) (0 :: moved) moved⟩

/-- The integer times `2 ^ s`, cut to the same length: whole bytes move first, then each byte joins
    with the one below it. -/
def shiftLeft (x : Octets) (s : Nat) : Octets :=
  if x.wordWidth ≤ s then
    zeros x.length
  else
    let moved := x.bytes.drop (s / 8) ++ List.replicate (s / 8) 0
    ⟨List.zipWith (joinLeft (s % 8)) moved (moved.drop 1 ++ [0])⟩

/-- `shiftRight` by an integer of any size; more than a machine word moves every bit out. -/
def shiftRightBy (x t : Octets) : Octets :=
  match t.toUInt64? with
  | some s => x.shiftRight s.toNat
  | none => zeros x.length

/-- `shiftLeft` by an integer of any size; more than a machine word moves every bit out. -/
def shiftLeftBy (x t : Octets) : Octets :=
  match t.toUInt64? with
  | some s => x.shiftLeft s.toNat
  | none => zeros x.length

instance : HShiftRight Octets Nat Octets := ⟨shiftRight⟩
instance : HShiftLeft Octets Nat Octets := ⟨shiftLeft⟩

@[simp] theorem length_shiftRight (x : Octets) (s : Nat) : (x.shiftRight s).length = x.length := by
  unfold shiftRight
  split
  · simp
  · simp [length]

@[simp] theorem length_shiftLeft (x : Octets) (s : Nat) : (x.shiftLeft s).length = x.length := by
  unfold shiftLeft
  split
  · simp
  · simp [wordWidth, length] at *
    omega

end Tribase.Octets
