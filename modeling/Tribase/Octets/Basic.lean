import Tribase.Byte

/-!
# Octet strings

An unsigned integer written as bytes, most significant first. The length is part of the value:
leading zero bytes are kept until an operation says otherwise, so equality is equality byte for
byte.

* `PadCap` bounds how many zero bytes a request may add;
* `value` is the integer, the one view through which the arithmetic is read;
* `zeros`, `ones`, `ofNat` and `ofWord` build octet strings;
* `pad`, `zeroExtend`, `truncate`, `trim` and `align` change the length;
* `compareValue` and `equivalent` compare the integers: both strings are brought to one length, and
  then the first byte that differs decides;
* `Supply` hands out bytes in order, and a draw takes all the bytes it asks for, or none.
-/

namespace Tribase

/-! ## 1. Caps on zero padding -/

/-- The greatest number of zero bytes that one padding step may add, so that a mistyped width cannot
    fill the memory; the largest machine word stands for no cap at all. -/
structure PadCap where
  bytes : Nat
deriving DecidableEq, Repr

namespace PadCap

/-- The cap used when none is chosen: a thousand bytes. -/
def standard : PadCap := ⟨1000⟩

/-- No cap: the largest machine word. -/
def unlimited : PadCap := ⟨UInt64.size - 1⟩

instance : Inhabited PadCap := ⟨standard⟩

/-- The number of bytes granted when `n` are asked for. -/
def clamp (c : PadCap) (n : Nat) : Nat :=
  min n c.bytes

/-- Whether fewer bytes are granted than the `n` asked for. -/
def isCapped (c : PadCap) (n : Nat) : Bool :=
  c.bytes < n

/-- Caps are ordered by the bytes they grant. -/
instance : Ord PadCap := ⟨fun a b => compare a.bytes b.bytes⟩

/-- The cap in words. -/
def describe (c : PadCap) : String :=
  if c = unlimited then "unlimited" else s!"{c.bytes} bytes"

/-- The cap as it stands inside a described configuration. -/
def inspect (c : PadCap) : String :=
  s!"PadLimit({c.bytes})"

theorem clamp_le (c : PadCap) (n : Nat) : c.clamp n ≤ c.bytes :=
  Nat.min_le_right n c.bytes

theorem isCapped_iff (c : PadCap) (n : Nat) : c.isCapped n = true ↔ c.clamp n ≠ n := by
  unfold isCapped clamp
  rw [decide_eq_true_iff]
  omega

end PadCap

/-- An unsigned integer as bytes, most significant first, with its leading zero bytes. -/
@[ext] structure Octets where
  bytes : List UInt8
deriving DecidableEq, Repr

namespace Octets

/-! ## 2. The integer -/

/-- The integer that the bytes spell in base 256. -/
def value (x : Octets) : Nat :=
  Byte.valueHigh x.bytes

/-- The number of bytes, leading zeros included. -/
def length (x : Octets) : Nat :=
  x.bytes.length

/-- No byte at all; its value is zero. -/
def empty : Octets := ⟨[]⟩

instance : Inhabited Octets := ⟨empty⟩

/-- Whether there is no byte at all. -/
def isEmpty (x : Octets) : Bool :=
  x.bytes.isEmpty

/-- Zero in `n` bytes. -/
def zeros (n : Nat) : Octets :=
  ⟨List.replicate n 0⟩

/-- The largest integer of `n` bytes: every bit is one. -/
def ones (n : Nat) : Octets :=
  ⟨List.replicate n 255⟩

/-- The shortest encoding of `n`: no leading zero byte, and no byte for zero. -/
def ofNat (n : Nat) : Octets :=
  ⟨(Byte.lowBytes (byteLength n) n).reverse⟩

/-! ## 3. Machine words -/

/-- The shortest encoding of a machine word: no byte for zero, one byte below 256, and otherwise the
    last of its eight bytes. -/
def ofWord (n : UInt64) : Octets :=
  if n = 0 then empty
  else if n < 256 then ⟨[n.toUInt8]⟩
  else ⟨(Byte.lowBytes 8 n.toNat).reverse.drop (8 - byteLength n.toNat)⟩

theorem byteLength_word_le (n : UInt64) : byteLength n.toNat ≤ 8 := by
  have hn := n.toNat_lt
  rw [byteLength, bytesFor_eq, bitLength]
  split
  · decide
  · rename_i hz
    have hlog : n.toNat.log2 < 64 := (Nat.log2_lt hz).mpr hn
    omega

/-- A machine word is encoded as its number is. -/
theorem ofWord_eq_ofNat (n : UInt64) : ofWord n = ofNat n.toNat := by
  unfold ofWord
  split
  · rename_i hz
    rw [hz]
    rfl
  · rename_i hz
    split
    · -- one byte is enough
      rename_i hlt
      have hsmall : n.toNat < 256 := hlt
      have hpos : n.toNat ≠ 0 := fun h => hz (UInt64.toNat_inj.mp h)
      have hlog : n.toNat.log2 < 8 := (Nat.log2_lt hpos).mpr hsmall
      have hone : byteLength n.toNat = 1 := by
        rw [byteLength, bytesFor_eq, bitLength, if_neg hpos]
        omega
      rw [ofNat, hone]
      exact congrArg (fun b => Octets.mk [b]) (UInt8.toNat_inj.mp (by simp))
    · rw [List.drop_reverse, Byte.length_lowBytes, Nat.sub_sub_self (byteLength_word_le n),
        Byte.take_lowBytes (byteLength_word_le n)]
      rfl

/-! ## 4. Changes of length -/

/-- `n` more zero bytes in front, as far as the cap allows. -/
def pad (x : Octets) (n : Nat) (cap : PadCap) : Octets :=
  ⟨List.replicate (cap.clamp n) 0 ++ x.bytes⟩

/-- Zero bytes in front up to `n` bytes; longer strings stay as they are. -/
def zeroExtend (x : Octets) (n : Nat) : Octets :=
  ⟨List.replicate (n - x.length) 0 ++ x.bytes⟩

/-- The last `n` bytes; shorter strings stay as they are. -/
def truncate (x : Octets) (n : Nat) : Octets :=
  ⟨x.bytes.drop (x.length - n)⟩

/-- The number of zero bytes in front of the first other byte, or all of them. -/
def leadingZeroBytes (x : Octets) : Nat :=
  (x.bytes.takeWhile (· == 0)).length

/-- The same integer without leading zero bytes. -/
def trim (x : Octets) : Octets :=
  ⟨x.bytes.dropWhile (· == 0)⟩

/-- Both strings at the length of the longer one. -/
def align (a b : Octets) : Octets × Octets :=
  (a.zeroExtend b.length, b.zeroExtend a.length)

/-! ## 5. Lengths -/

@[simp] theorem length_mk (l : List UInt8) : (Octets.mk l).length = l.length := rfl

@[simp] theorem length_zeros (n : Nat) : (zeros n).length = n :=
  List.length_replicate

@[simp] theorem length_ones (n : Nat) : (ones n).length = n :=
  List.length_replicate

@[simp] theorem length_ofNat (n : Nat) : (ofNat n).length = byteLength n := by
  simp [ofNat]

@[simp] theorem length_pad (x : Octets) (n : Nat) (cap : PadCap) :
    (x.pad n cap).length = cap.clamp n + x.length := by
  simp [pad, length]

@[simp] theorem length_zeroExtend (x : Octets) (n : Nat) :
    (x.zeroExtend n).length = max x.length n := by
  simp only [zeroExtend, length, List.length_append, List.length_replicate]
  omega

@[simp] theorem length_truncate (x : Octets) (n : Nat) :
    (x.truncate n).length = min x.length n := by
  simp only [truncate, length, List.length_drop]
  omega

theorem length_align (a b : Octets) : (a.align b).1.length = (a.align b).2.length := by
  simp only [align, length_zeroExtend]
  omega

/-! ## 6. Order -/

/-- The order of the two integers. -/
def compareValue (a b : Octets) : Ordering :=
  compare (a.align b).1.bytes (a.align b).2.bytes

/-- Whether the first integer is the greater one. -/
def isGreater (a b : Octets) : Bool :=
  a.compareValue b == .gt

/-- Whether the first integer is not the smaller one. -/
def isGreaterOrEqual (a b : Octets) : Bool :=
  a.compareValue b != .lt

/-- Whether both strings are the same integer, whatever their leading zeros. -/
def equivalent (a b : Octets) : Bool :=
  (a.align b).1 == (a.align b).2

/-- Whether the bytes of `b` end the bytes of `a`. -/
def endsWith (a b : Octets) : Bool :=
  b.bytes.isSuffixOf a.bytes

/-- Whether every bit is zero; the empty string counts. -/
def isZero (x : Octets) : Bool :=
  x.bytes.all (· == 0)

/-- Whether every bit is one; the empty string counts. -/
def isOnes (x : Octets) : Bool :=
  x.bytes.all (· == 255)

end Octets

/-! ## 7. Draws from a supply -/

/-- The bytes that are still to be handed out, the next one first. -/
structure Supply where
  rest : List UInt8
deriving DecidableEq, Repr

/-- The next `n` bytes and the supply after them; nothing where fewer are left. -/
def Supply.draw? (s : Supply) (n : Nat) : Option (Octets × Supply) :=
  if n ≤ s.rest.length then some (⟨s.rest.take n⟩, ⟨s.rest.drop n⟩) else none

/-- One draw after another. A draw that fails takes nothing, and the next one goes on from there. -/
def Supply.draws : Supply → List Nat → List (Option Octets)
  | _, [] => []
  | s, n :: ns =>
    match s.draw? n with
    | some (x, s') => some x :: s'.draws ns
    | none => none :: s.draws ns

end Tribase
