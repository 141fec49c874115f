/-!
# Widths and single bytes

How many bits and bytes a number takes, and the steps from which arithmetic on byte strings is made.
Each step works on bytes, and each is exact: what does not fit in the low byte is handed on.

* `bitLength` is the position after the highest one bit, `bytesFor` rounds a number of bits up to
  whole bytes, and `byteLength` is the number of bytes of the shortest encoding;
* `Fault` says how fixed-width arithmetic can have no answer;
* `addCarry` and `mulAdd` split a sum, or a product plus a carry, into a low byte and a carry;
* `divide` is one digit of a long division in base 256;
* `lowBytes` writes a number as a fixed count of bytes, least significant first; `valueLow` and
  `valueHigh` read bytes as a number, the least or the most significant one first;
* `swapNibbles`, `reverseBits`, `onesCount`, `leadingZeros` look at the eight bits.
-/

namespace Tribase

/-! ## 1. Widths of natural numbers -/

/-- The number of bits from the highest one bit down; zero has none. -/
def bitLength (n : Nat) : Nat :=
  if n = 0 then 0 else n.log2 + 1

/-- The number of whole bytes that hold `bits` bits. -/
def bytesFor (bits : Nat) : Nat :=
  bits / 8 + if bits % 8 = 0 then 0 else 1

/-- The number of bytes of the shortest encoding of `n`; zero takes none. -/
def byteLength (n : Nat) : Nat :=
  bytesFor (bitLength n)

@[simp] theorem bitLength_zero : bitLength 0 = 0 := rfl

theorem bytesFor_eq (bits : Nat) : bytesFor bits = (bits + 7) / 8 := by
  unfold bytesFor
  split <;> omega

/-! ## 2. Faults -/

/-- Why an arithmetic step has no result. -/
inductive Fault where
  /-- The divisor is zero. -/
  | divideByZero
  /-- The sum does not fit in a machine word. -/
  | addOverflow
deriving DecidableEq, Repr

/-- The text shown for a fault. -/
def Fault.message : Fault → String
  | .divideByZero => "attempt to divide by zero"
  | .addOverflow => "attempt to add with overflow"

namespace Byte

/-! ## 3. Carrying steps -/

/-- The sum of three bytes as low byte and carry; the carry is at most two. -/
def addCarry (x y z : UInt8) : UInt8 × UInt8 :=
  let t := x.toNat + y.toNat + z.toNat
  (UInt8.ofNat t, UInt8.ofNat (t / 256))

/-- The number `x * y + z` as low byte and high byte; it always fits in the two. -/
def mulAdd (x y z : UInt8) : UInt8 × UInt8 :=
  let t := x.toNat * y.toNat + z.toNat
  (UInt8.ofNat t, UInt8.ofNat (t / 256))

/-- One digit of a long division: `rem * 256 + x` by `div`, as quotient and remainder. The quotient
    is cut to its low byte, which loses nothing as long as `rem < div`. -/
def divide (rem x div : UInt8) : UInt8 × UInt8 :=
  let t := rem.toNat * 256 + x.toNat
  (UInt8.ofNat (t / div.toNat), UInt8.ofNat (t % div.toNat))

/-- `divide` for a divisor that may be zero. -/
def divide? (rem x div : UInt8) : Except Fault (UInt8 × UInt8) :=
  if div = 0 then .error .divideByZero else .ok (divide rem x div)

theorem addCarry_value (x y z : UInt8) :
    (addCarry x y z).1.toNat + 256 * (addCarry x y z).2.toNat = x.toNat + y.toNat + z.toNat := by
  have hx := x.toNat_lt
  have hy := y.toNat_lt
  have hz := z.toNat_lt
  simp only [addCarry, UInt8.toNat_ofNat']
  omega

theorem mulAdd_value (x y z : UInt8) :
    (mulAdd x y z).1.toNat + 256 * (mulAdd x y z).2.toNat = x.toNat * y.toNat + z.toNat := by
  have hz := z.toNat_lt
  have hxy : x.toNat * y.toNat ≤ 255 * 255 :=
    Nat.mul_le_mul (Nat.le_of_lt_succ x.toNat_lt) (Nat.le_of_lt_succ y.toNat_lt)
  simp only [mulAdd, UInt8.toNat_ofNat']
  omega

/-! ## 4. Numbers as bytes -/

/-- The `w` lowest bytes of `n`, least significant first. -/
def lowBytes : Nat → Nat → List UInt8
  | 0, _ => []
  | w + 1, n => UInt8.ofNat n :: lowBytes w (n / 256)

/-- The number whose bytes, least significant first, are given. -/
def valueLow : List UInt8 → Nat
  | [] => 0
  | b :: bs => b.toNat + 256 * valueLow bs

/-- The number that follows from `v` by one more base 256 digit for each byte. -/
def horner (v : Nat) (bytes : List UInt8) : Nat :=
  bytes.foldl (fun v b => v * 256 + b.toNat) v

/-- The number whose bytes, most significant first, are given. -/
def valueHigh (bytes : List UInt8) : Nat :=
  horner 0 bytes

@[simp] theorem horner_nil (v : Nat) : horner v [] = v := rfl

@[simp] theorem horner_cons (v : Nat) (b : UInt8) (bs : List UInt8) :
    horner v (b :: bs) = horner (v * 256 + b.toNat) bs := rfl

theorem le_horner (v : Nat) (bytes : List UInt8) : v ≤ horner v bytes := by
  induction bytes generalizing v with
  | nil => exact Nat.le_refl v
  | cons b bs ih => exact Nat.le_trans (by omega) (ih (v * 256 + b.toNat))

/-- Leading zero bytes add nothing. -/
theorem valueHigh_dropWhile_zero (bytes : List UInt8) :
    valueHigh (bytes.dropWhile (· == 0)) = valueHigh bytes := by
  induction bytes with
  | nil => rfl
  | cons b bs ih =>
    by_cases hb : b = 0
    · subst hb
      simpa [valueHigh] using ih
    · simp [hb]

/-- A nonzero byte in front makes a nonzero number. -/
theorem valueHigh_pos {b : UInt8} (hb : b ≠ 0) (bs : List UInt8) : 0 < valueHigh (b :: bs) := by
  have hpos : 0 < b.toNat := Nat.pos_of_ne_zero fun h => hb (UInt8.toNat_inj.mp h)
  exact Nat.lt_of_lt_of_le (by omega) (le_horner (0 * 256 + b.toNat) bs)

@[simp] theorem length_lowBytes (w n : Nat) : (lowBytes w n).length = w := by
  induction w generalizing n with
  | zero => rfl
  | succ w ih => simp only [lowBytes, List.length_cons, ih]

/-- Of more bytes, the lowest are those of fewer. -/
theorem take_lowBytes {k w : Nat} (h : k ≤ w) (n : Nat) : (lowBytes w n).take k = lowBytes k n := by
  induction w generalizing k n with
  | zero =>
    obtain rfl : k = 0 := Nat.eq_zero_of_le_zero h
    rfl
  | succ w ih =>
    cases k with
    | zero => rfl
    | succ k => rw [lowBytes, lowBytes, List.take_succ_cons, ih (Nat.le_of_succ_le_succ h)]

/-! ## 5. Long division -/

/-- Divides the number spelled by the bytes, most significant first, by `div`: quotient bytes and
    last remainder, with `rem` brought down from the left. -/
def longDivide (div : UInt8) : UInt8 → List UInt8 → List UInt8 × UInt8
  | rem, [] => ([], rem)
  | rem, x :: xs =>
    let (q, r) := divide rem x div
    let (qs, last) := longDivide div r xs
    (q :: qs, last)

/-- **Long division is exact**: quotient times divisor plus remainder gives the dividend back. -/
theorem longDivide_value {div rem : UInt8} (h : rem < div) (a : Nat) (bytes : List UInt8) :
    horner a (longDivide div rem bytes).1 * div.toNat + (longDivide div rem bytes).2.toNat =
      horner (a * div.toNat + rem.toNat) bytes := by
  induction bytes generalizing a rem with
  | nil => rfl
  | cons x xs ih =>
    have hlt : rem.toNat < div.toNat := h
    have hx := x.toNat_lt
    have hd := div.toNat_lt
    have hq : (rem.toNat * 256 + x.toNat) / div.toNat < 256 :=
      Nat.div_lt_of_lt_mul (by omega)
    have hr : (rem.toNat * 256 + x.toNat) % div.toNat < div.toNat := Nat.mod_lt _ (by omega)
    have hdm := Nat.div_add_mod (rem.toNat * 256 + x.toNat) div.toNat
    have hrem : UInt8.ofNat ((rem.toNat * 256 + x.toNat) % div.toNat) < div := by
      rw [UInt8.lt_iff_toNat_lt, UInt8.toNat_ofNat_of_lt' (Nat.lt_trans hr hd)]
      exact hr
    simp only [longDivide, divide, horner_cons]
    rw [ih hrem, UInt8.toNat_ofNat_of_lt' hq, UInt8.toNat_ofNat_of_lt' (Nat.lt_trans hr hd)]
    congr 1
    rw [Nat.add_mul, Nat.add_mul]
    have e : a * 256 * div.toNat = a * div.toNat * 256 := Nat.mul_right_comm ..
    have e' : (rem.toNat * 256 + x.toNat) / div.toNat * div.toNat =
        div.toNat * ((rem.toNat * 256 + x.toNat) / div.toNat) := Nat.mul_comm ..
    omega

/-! ## 6. Bits of a byte -/

/-- The byte with its two halves exchanged. -/
def swapNibbles (x : UInt8) : UInt8 :=
  (x >>> 4) ||| (x <<< 4)

/-- The byte with its eight bits in reverse: halves, then pairs, then neighbours are exchanged. -/
def reverseBits (x : UInt8) : UInt8 :=
  let x := swapNibbles x
  let x := ((x &&& 0xcc) >>> 2) ||| ((x &&& 0x33) <<< 2)
  ((x &&& 0xaa) >>> 1) ||| ((x &&& 0x55) <<< 1)

/-- The number of one bits. -/
def onesCount (x : UInt8) : Nat :=
  (List.range 8).countP x.toNat.testBit

/-- The number of zero bits above the highest one bit; eight for zero. -/
def leadingZeros (x : UInt8) : Nat :=
  8 - bitLength x.toNat

end Byte

end Tribase
