import Tribase.Octets.Basic

/-!
# Arithmetic of octet strings

* Bitwise operations fill the shorter operand up with zero bytes in front and go byte by byte; the
  complement stays within the operand's own bytes.
* Addition runs from the least significant byte with a carry and grows by one byte where the last
  carry asks for it.
* Negation and subtraction stay within a width: they are complement, add one, and keep the bytes of
  that width.
-/

namespace Tribase

/-! ## 1. Bitwise operations -/

/-- The bitwise operations of two operands. -/
inductive BitOp where
  | and
  | or
  | xor
deriving DecidableEq, Repr

/-- The operation on two bytes. -/
def BitOp.apply : BitOp → UInt8 → UInt8 → UInt8
  | .and, x, y => x &&& y
  | .or, x, y => x ||| y
  | .xor, x, y => x ^^^ y

namespace Octets

/-- The operation on two integers, at the length of the longer operand. -/
def bitwise (op : BitOp) (a b : Octets) : Octets :=
  ⟨List.zipWith op.apply (a.align b).1.bytes (a.align b).2.bytes⟩

/-- Every bit inverted, at the operand's own length. -/
def complement (x : Octets) : Octets :=
  ⟨x.bytes.map (~~~ ·)⟩

instance : AndOp Octets := ⟨bitwise .and⟩
instance : OrOp Octets := ⟨bitwise .or⟩
instance : XorOp Octets := ⟨bitwise .xor⟩
instance : Complement Octets := ⟨complement⟩

@[simp] theorem length_bitwise (op : BitOp) (a b : Octets) :
    (bitwise op a b).length = max a.length b.length := by
  have h := length_align a b
  simp only [length] at h
  simp only [bitwise, length, List.length_zipWith, h, Nat.min_self]
  exact length_zeroExtend b a.length |>.trans (Nat.max_comm ..)

@[simp] theorem length_complement (x : Octets) : x.complement.length = x.length :=
  List.length_map ..

/-! ## 2. Sums and differences -/

/-- The sum of two byte lists of one length, least significant byte first, with a carry coming in. A
    carry that is left at the end becomes one more byte. -/
def addLow : List UInt8 → List UInt8 → UInt8 → List UInt8
  | x :: xs, y :: ys, carry =>
    let (low, next) := Byte.addCarry x y carry
    low :: addLow xs ys next
  | _, _, carry => if carry = 0 then [] else [carry]

/-- The exact sum, at the length of the longer operand or one byte more. -/
def add (a b : Octets) : Octets :=
  ⟨(addLow (a.align b).1.bytes.reverse (a.align b).2.bytes.reverse 0).reverse⟩

/-- The negative modulo `256 ^ x.length`, at the operand's own length. -/
def negate (x : Octets) : Octets :=
  if x.isEmpty then x else (x.complement.add ⟨[1]⟩).truncate x.length

/-- The difference modulo `256 ^ w`, where `w` is the length of the longer operand. -/
def subtract (a b : Octets) : Octets :=
  let (a, b) := a.align b
  (a.add b.negate).truncate a.length

instance : Add Octets := ⟨add⟩
instance : Neg Octets := ⟨negate⟩
instance : Sub Octets := ⟨subtract⟩

end Octets

end Tribase
