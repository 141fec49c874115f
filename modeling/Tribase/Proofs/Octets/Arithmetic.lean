import Mathlib.Data.Int.ModEq
import Mathlib.Data.Nat.Bitwise
import Tribase.Octets.Arithmetic
import Tribase.Proofs.Octets.Value

/-!
# Arithmetic on octet strings

What the operations do to the integer, and what they do to its lowest bytes.

* `value_add`: the sum is exact;
* `value_bitwise`: the bitwise operations are those of the integers, at any lengths;
* `value_complement`: the complement is what is missing to the greatest integer of the length;
* `value_negate`, **`value_subtract`**: the negative and the difference modulo the longer length;
* `negate_modEq`, `subtract_modEq`: the same as congruences of integers;
* `residue w z` is `z` modulo `256 ^ w`;
* `value_and_complement`, `value_xor_complement`: a complement in another operation stops at the
  length of its own operand;
* **`and_complement_mod`**, `xor_complement_mod`, `subtract_mod`: in the lowest `w` bytes the length
  at which a complement or a difference is taken does not show, as long as it has `w` bytes.
-/

namespace Tribase

/-! ## 1. Sums -/

namespace Octets

theorem valueLow_addLow {xs ys : List UInt8} (h : xs.length = ys.length) (carry : UInt8) :
    Byte.valueLow (addLow xs ys carry) = Byte.valueLow xs + Byte.valueLow ys + carry.toNat := by
  induction xs generalizing ys carry with
  | nil =>
    obtain rfl : ys = [] := List.eq_nil_of_length_eq_zero h.symm
    by_cases hc : carry = 0
    · rw [hc]
      rfl
    · simp [addLow, Byte.valueLow, hc]
  | cons x xs ih =>
    cases ys with
    | nil => cases h
    | cons y ys =>
      have hstep := Byte.addCarry_value x y carry
      have hrest := ih (Nat.succ.inj h) (Byte.addCarry x y carry).2
      rw [addLow, Byte.valueLow, hrest, Byte.valueLow, Byte.valueLow]
      omega

theorem length_reverse_align (a b : Octets) :
    (a.align b).1.bytes.reverse.length = (a.align b).2.bytes.reverse.length := by
  rw [List.length_reverse, List.length_reverse]
  exact length_align a b

/-- **Addition is exact.** -/
theorem value_add (a b : Octets) : (a.add b).value = a.value + b.value := by
  have hsum := valueLow_addLow (length_reverse_align a b) 0
  rw [← Byte.valueHigh_reverse, ← Byte.valueHigh_reverse, ← Byte.valueHigh_reverse,
    List.reverse_reverse, List.reverse_reverse] at hsum
  have ha : Byte.valueHigh (a.align b).1.bytes = a.value := value_zeroExtend a b.length
  have hb : Byte.valueHigh (a.align b).2.bytes = b.value := value_zeroExtend b a.length
  rw [ha, hb] at hsum
  exact hsum

end Octets

/-! ## 2. Bitwise operations -/

namespace BitOp

/-- The operation on two bits. -/
def onBool : BitOp → Bool → Bool → Bool
  | .and => Bool.and
  | .or => Bool.or
  | .xor => Bool.xor

/-- The operation on two numbers. -/
def onNat : BitOp → Nat → Nat → Nat
  | .and => (· &&& ·)
  | .or => (· ||| ·)
  | .xor => (· ^^^ ·)

theorem testBit_onNat (op : BitOp) (m n i : Nat) :
    (op.onNat m n).testBit i = op.onBool (m.testBit i) (n.testBit i) := by
  cases op with
  | and => exact Nat.testBit_and m n i
  | or => exact Nat.testBit_or m n i
  | xor => exact Nat.testBit_xor m n i

theorem toNat_apply (op : BitOp) (x y : UInt8) :
    (op.apply x y).toNat = op.onNat x.toNat y.toNat := by
  cases op with
  | and => exact UInt8.toNat_and x y
  | or => exact UInt8.toNat_or x y
  | xor => exact UInt8.toNat_xor x y

theorem onNat_lt (op : BitOp) {m n k : Nat} (hm : m < 2 ^ k) (hn : n < 2 ^ k) :
    op.onNat m n < 2 ^ k := by
  cases op with
  | and => exact Nat.and_lt_two_pow m hn
  | or => exact Nat.or_lt_two_pow hm hn
  | xor => exact Nat.xor_lt_two_pow hm hn

/-- High and low parts are combined each for itself. -/
theorem onNat_split (op : BitOp) {u v k : Nat} (m n : Nat) (hu : u < 2 ^ k) (hv : v < 2 ^ k) :
    op.onNat (2 ^ k * m + u) (2 ^ k * n + v) = 2 ^ k * op.onNat m n + op.onNat u v := by
  refine Nat.eq_of_testBit_eq fun i => ?_
  rw [testBit_onNat, Nat.testBit_two_pow_mul_add m hu, Nat.testBit_two_pow_mul_add n hv,
    Nat.testBit_two_pow_mul_add _ (op.onNat_lt hu hv)]
  split
  · exact (op.testBit_onNat u v i).symm
  · exact (op.testBit_onNat m n (i - k)).symm

end BitOp

/-- A number has no one bits above its width. -/
theorem testBit_above {n k i : Nat} (hn : n < 2 ^ k) (hi : k ≤ i) : n.testBit i = false :=
  Nat.testBit_lt_two_pow (hn.trans_le (Nat.pow_le_pow_right (by decide) hi))

theorem Byte.valueHigh_cons_two_pow (b : UInt8) (bs : List UInt8) :
    valueHigh (b :: bs) = 2 ^ (8 * bs.length) * b.toNat + valueHigh bs := by
  rw [valueHigh_cons, pow_256, Nat.mul_comm]

theorem Byte.valueHigh_lt_two_pow (bytes : List UInt8) : valueHigh bytes < 2 ^ (8 * bytes.length) :=
  lt_of_lt_of_eq (valueHigh_lt bytes) (pow_256 bytes.length)

namespace Octets

theorem value_lt_two_pow (x : Octets) : x.value < 2 ^ (8 * x.length) :=
  Byte.valueHigh_lt_two_pow x.bytes

theorem valueHigh_zipWith (op : BitOp) {xs ys : List UInt8} (h : xs.length = ys.length) :
    Byte.valueHigh (List.zipWith op.apply xs ys) =
      op.onNat (Byte.valueHigh xs) (Byte.valueHigh ys) := by
  induction xs generalizing ys with
  | nil =>
    obtain rfl : ys = [] := List.eq_nil_of_length_eq_zero h.symm
    cases op <;> rfl
  | cons x xs ih =>
    cases ys with
    | nil => cases h
    | cons y ys =>
      have hlen : xs.length = ys.length := Nat.succ.inj h
      have hx := Byte.valueHigh_lt_two_pow xs
      have hy := Byte.valueHigh_lt_two_pow ys
      rw [← hlen] at hy
      rw [List.zipWith_cons_cons, Byte.valueHigh_cons_two_pow, Byte.valueHigh_cons_two_pow,
        Byte.valueHigh_cons_two_pow, ih hlen, op.toNat_apply, List.length_zipWith, ← hlen,
        Nat.min_self]
      exact (op.onNat_split x.toNat y.toNat hx hy).symm

/-- **The bitwise operations are those of the integers**, whatever the lengths. -/
theorem value_bitwise (op : BitOp) (a b : Octets) :
    (bitwise op a b).value = op.onNat a.value b.value := by
  have h := valueHigh_zipWith op (length_align a b)
  exact h.trans (congrArg₂ op.onNat (value_zeroExtend a b.length) (value_zeroExtend b a.length))

/-- The complement is what is missing to the greatest integer of the length. -/
theorem value_complement (x : Octets) : x.complement.value = 256 ^ x.length - (x.value + 1) := by
  obtain ⟨bytes⟩ := x
  have hsum : Byte.valueHigh (bytes.map (~~~ ·)) + (Byte.valueHigh bytes + 1) = 256 ^ bytes.length := by
    induction bytes with
    | nil => rfl
    | cons b bs ih =>
      have hb : (~~~ b).toNat + b.toNat = 255 := by
        have hlt := b.toNat_lt
        rw [UInt8.toNat_not, UInt8.size]
        omega
      rw [List.map_cons, Byte.valueHigh_cons, Byte.valueHigh_cons, List.length_map, List.length_cons]
      calc (~~~ b).toNat * 256 ^ bs.length + Byte.valueHigh (bs.map (~~~ ·)) +
            (b.toNat * 256 ^ bs.length + Byte.valueHigh bs + 1)
          = ((~~~ b).toNat + b.toNat) * 256 ^ bs.length +
              (Byte.valueHigh (bs.map (~~~ ·)) + (Byte.valueHigh bs + 1)) := by ring
        _ = 256 ^ (bs.length + 1) := by
          rw [hb, ih]
          ring
  exact Nat.eq_sub_of_add_eq hsum

/-! ## 3. Differences -/

theorem value_negate (x : Octets) :
    x.negate.value = (256 ^ x.length - x.value) % 256 ^ x.length := by
  have hlt := value_lt x
  unfold negate
  split
  · rename_i hempty
    obtain rfl : x = ⟨[]⟩ := Octets.ext (List.isEmpty_iff.mp hempty)
    rfl
  · have hone : (⟨[1]⟩ : Octets).value = 1 := rfl
    have hnext : 256 ^ x.length - (x.value + 1) + 1 = 256 ^ x.length - x.value := by omega
    rw [value_truncate, value_add, value_complement, hone, hnext]

/-- **Subtraction is modular** at the longer length. -/
theorem value_subtract (a b : Octets) :
    (a.subtract b).value =
      (a.value + (256 ^ max a.length b.length - b.value)) % 256 ^ max a.length b.length := by
  have hlen : (b.zeroExtend a.length).length = max a.length b.length := by
    rw [length_zeroExtend, Nat.max_comm]
  show ((a.zeroExtend b.length).add (b.zeroExtend a.length).negate |>.truncate
    (a.zeroExtend b.length).length).value = _
  rw [value_truncate, value_add, value_negate, hlen, length_zeroExtend, value_zeroExtend,
    value_zeroExtend, Nat.add_mod_mod]

/-- The negative is the negative integer, modulo the length. -/
theorem negate_modEq (x : Octets) : (x.negate.value : ℤ) ≡ -x.value [ZMOD 256 ^ x.length] := by
  have hle := (value_lt x).le
  rw [value_negate]
  push_cast [Nat.cast_sub hle]
  calc ((256 : ℤ) ^ x.length - x.value) % 256 ^ x.length
      ≡ 256 ^ x.length - x.value [ZMOD 256 ^ x.length] := Int.mod_modEq _ _
    _ ≡ 0 - x.value [ZMOD 256 ^ x.length] :=
        (Int.modEq_zero_iff_dvd.mpr dvd_rfl).sub_right _
    _ = -x.value := by ring

/-- The difference is that of the integers, modulo the longer length. -/
theorem subtract_modEq (a b : Octets) :
    ((a.subtract b).value : ℤ) ≡ a.value - b.value [ZMOD 256 ^ max a.length b.length] := by
  have hle : b.value ≤ 256 ^ max a.length b.length := (value_lt_pow (Nat.le_max_right _ _)).le
  rw [value_subtract]
  push_cast [Nat.cast_sub hle]
  calc ((a.value : ℤ) + (256 ^ max a.length b.length - b.value)) % 256 ^ max a.length b.length
      ≡ a.value + (256 ^ max a.length b.length - b.value) [ZMOD 256 ^ max a.length b.length] :=
        Int.mod_modEq _ _
    _ ≡ a.value + (0 - b.value) [ZMOD 256 ^ max a.length b.length] :=
        ((Int.modEq_zero_iff_dvd.mpr dvd_rfl).sub_right _).add_left _
    _ = a.value - b.value := by ring

end Octets

/-! ## 4. The lowest bytes -/

/-- The residue modulo `256 ^ w`. -/
def residue (w : Nat) (z : Int) : Nat :=
  (z % 256 ^ w).toNat

theorem residue_natCast (w n : Nat) : residue w n = n % 256 ^ w := by
  rw [residue]
  norm_cast

theorem residue_congr {w : Nat} {z z' : Int} (h : z % 256 ^ w = z' % 256 ^ w) :
    residue w z = residue w z' :=
  congrArg Int.toNat h

/-- The lowest bytes are determined by their bits. -/
theorem mod_eq_of_testBit {m n w : Nat} (h : ∀ i < 8 * w, m.testBit i = n.testBit i) :
    m % 256 ^ w = n % 256 ^ w := by
  rw [pow_256]
  refine Nat.eq_of_testBit_eq fun i => ?_
  rw [Nat.testBit_mod_two_pow, Nat.testBit_mod_two_pow]
  by_cases hi : i < 8 * w
  · rw [h i hi]
  · simp [hi]

theorem testBit_mod_pow {w i : Nat} (h : i < 8 * w) (n : Nat) :
    (n % 256 ^ w).testBit i = n.testBit i := by
  rw [pow_256, Nat.testBit_mod_two_pow, decide_eq_true h, Bool.true_and]

theorem BitOp.onNat_mod (op : BitOp) (w m n : Nat) :
    op.onNat (m % 256 ^ w) (n % 256 ^ w) % 256 ^ w = op.onNat m n % 256 ^ w := by
  refine mod_eq_of_testBit fun i hi => ?_
  rw [testBit_onNat, testBit_onNat, testBit_mod_pow hi, testBit_mod_pow hi]

theorem ldiff_mod (w m n : Nat) :
    Nat.ldiff (m % 256 ^ w) (n % 256 ^ w) % 256 ^ w = Nat.ldiff m n % 256 ^ w := by
  refine mod_eq_of_testBit fun i hi => ?_
  rw [Nat.testBit_ldiff, Nat.testBit_ldiff, testBit_mod_pow hi, testBit_mod_pow hi]

namespace Octets

section

variable {w : Nat}

theorem testBit_complement_eq (x : Octets) (i : Nat) :
    x.complement.value.testBit i = (decide (i < 8 * x.length) && !x.value.testBit i) := by
  rw [value_complement, pow_256, Nat.testBit_two_pow_sub_succ x.value_lt_two_pow]

theorem testBit_complement {x : Octets} {i : Nat} (h : i < 8 * x.length) :
    x.complement.value.testBit i = !x.value.testBit i := by
  rw [testBit_complement_eq, decide_eq_true h, Bool.true_and]

/-- **And-not**, exactly: bits above the complemented operand are cleared. -/
theorem value_and_complement (a b : Octets) :
    (bitwise .and a b.complement).value = Nat.ldiff a.value b.value % 256 ^ b.length := by
  refine Nat.eq_of_testBit_eq fun i => ?_
  rw [value_bitwise, BitOp.testBit_onNat, testBit_complement_eq, pow_256, Nat.testBit_mod_two_pow,
    Nat.testBit_ldiff]
  exact Bool.and_left_comm _ _ _

/-- Exclusive or with a complement, exactly: bits above the complemented operand are not inverted. -/
theorem value_xor_complement (a b : Octets) :
    (bitwise .xor a b.complement).value = (a.value ^^^ b.value) ^^^ (256 ^ b.length - 1) := by
  refine Nat.eq_of_testBit_eq fun i => ?_
  rw [value_bitwise, BitOp.testBit_onNat, testBit_complement_eq, pow_256, Nat.testBit_xor,
    Nat.testBit_xor, Nat.testBit_two_pow_sub_one]
  by_cases hi : i < 8 * b.length
  · simp [BitOp.onBool, hi]
  · have hb : b.value.testBit i = false :=
      testBit_above b.value_lt_two_pow (Nat.le_of_not_lt hi)
    simp [BitOp.onBool, hi, hb]

/-- **And-not in the lowest bytes** is that of the integers. -/
theorem and_complement_mod (a b : Octets) (hw : w ≤ b.length) :
    (bitwise .and a b.complement).value % 256 ^ w = Nat.ldiff a.value b.value % 256 ^ w := by
  rw [value_and_complement, Nat.mod_mod_of_dvd _ (Nat.pow_dvd_pow 256 hw)]

/-- Exclusive or with the complement is the complement of the exclusive or, in the lowest bytes. -/
theorem xor_complement_mod (a b : Octets) (hw : w ≤ b.length) :
    (bitwise .xor a b.complement).value % 256 ^ w =
      256 ^ w - ((a.value ^^^ b.value) % 256 ^ w + 1) := by
  have hpos : 0 < 256 ^ w := Nat.pow_pos (by decide)
  have hlt : (a.value ^^^ b.value) % 256 ^ w < 2 ^ (8 * w) := by
    rw [← pow_256]
    exact Nat.mod_lt _ hpos
  have hself : 256 ^ w - ((a.value ^^^ b.value) % 256 ^ w + 1) < 256 ^ w :=
    Nat.sub_lt hpos (Nat.succ_pos _)
  rw [← Nat.mod_eq_of_lt hself]
  refine mod_eq_of_testBit fun i hi => ?_
  have hbit := Nat.testBit_two_pow_sub_succ hlt i
  rw [← pow_256, decide_eq_true hi, Bool.true_and, testBit_mod_pow hi, Nat.testBit_xor] at hbit
  rw [value_bitwise, BitOp.testBit_onNat, testBit_complement (by omega), hbit]
  show (a.value.testBit i ^^ !b.value.testBit i) = !(a.value.testBit i ^^ b.value.testBit i)
  exact Bool.xor_not _ _

/-- The difference in the lowest bytes is that of the integers. -/
theorem subtract_mod (a b : Octets) (hw : w ≤ max a.length b.length) :
    (a.subtract b).value % 256 ^ w = residue w (a.value - b.value) := by
  have hdvd : (256 : ℤ) ^ w ∣ 256 ^ max a.length b.length := pow_dvd_pow 256 hw
  rw [← residue_natCast]
  exact residue_congr ((subtract_modEq a b).of_dvd hdvd)

end

end Octets

end Tribase
