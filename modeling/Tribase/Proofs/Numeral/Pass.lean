import Mathlib.Data.List.Induction
import Tribase.Proofs.Numeral.Reading

/-!
# One pass of the reader

A digit makes one pass over the bytes of the number read so far, the least significant byte first.
Each byte is replaced by the low half of its product with the radix and the carry, and the high half
is carried on; a carry that is left becomes one more byte.

* `Pass`, `Pass.along`: a pass under way, and how far it is after the bytes given;
* `scaleAdd_eq_finish`: the pass at its end is what the reader computes;
* `Pass.Balanced`: nothing is lost on the way, after any number of bytes;
* `Pass.Balanced.carry_eq`, `Pass.Balanced.carry_lt`: the carry is a quotient, and below the radix;
* **`scaleAdd_exact`**: a whole pass, and every carry in it.
-/

namespace Tribase.Octets

/-! ## 1. A pass under way -/

/-- A pass under way. -/
structure Pass where
  /-- The new bytes so far, least significant first. -/
  made : List UInt8
  /-- What is carried on to the next byte. -/
  carry : UInt8
deriving DecidableEq, Repr

namespace Pass

/-- One byte: the low half of the product takes its place, the high half is carried on. -/
def step (radix : UInt8) (p : Pass) (x : UInt8) : Pass :=
  let (low, high) := Byte.mulAdd x radix p.carry
  ⟨p.made ++ [low], high⟩

/-- The pass that a digit starts, when it is past the given bytes. -/
def along (radix digit : UInt8) (bytes : List UInt8) : Pass :=
  bytes.foldl (step radix) ⟨[], digit⟩

/-- The bytes when there are no more to come: a carry other than zero is one of them. -/
def finish (p : Pass) : List UInt8 :=
  if p.carry = 0 then p.made else p.made ++ [p.carry]

variable {radix digit : UInt8} {seen : List UInt8} {p : Pass}

theorem along_concat (radix digit : UInt8) (bytes : List UInt8) (x : UInt8) :
    along radix digit (bytes ++ [x]) = (along radix digit bytes).step radix x :=
  List.foldl_append

theorem length_finish_le (p : Pass) : p.finish.length ≤ p.made.length + 1 := by
  unfold finish
  split
  · exact Nat.le_succ _
  · rw [List.length_append, List.length_singleton]

/-- The bytes behind a pass are put in front of what its carry makes of the rest. -/
theorem finish_foldl (radix : UInt8) (bytes : List UInt8) (p : Pass) :
    (bytes.foldl (step radix) p).finish = p.made ++ scaleAdd radix bytes p.carry := by
  induction bytes generalizing p with
  | nil =>
    rw [List.foldl_nil, finish, scaleAdd_nil]
    split
    · rw [List.append_nil]
    · rfl
  | cons x xs ih =>
    rw [List.foldl_cons, ih, scaleAdd_cons]
    simp only [step, List.append_assoc, List.singleton_append]

/-! ## 2. Nothing is lost on the way -/

/-- The pass is past the bytes `seen`. What it has made, and its carry behind that, are the number
    they stand for times the radix plus the digit. -/
structure Balanced (radix digit : UInt8) (seen : List UInt8) (p : Pass) : Prop where
  length : p.made.length = seen.length
  value : Byte.valueLow p.made + 256 ^ seen.length * p.carry.toNat =
    Byte.valueLow seen * radix.toNat + digit.toNat

theorem balanced_start (radix digit : UInt8) : Balanced radix digit [] ⟨[], digit⟩ :=
  ⟨rfl, by simp [Byte.valueLow]⟩

theorem Balanced.step (h : Balanced radix digit seen p) (x : UInt8) :
    Balanced radix digit (seen ++ [x]) (p.step radix x) := by
  have hproduct := Byte.mulAdd_value x radix p.carry
  have hvalue := h.value
  constructor
  · show (p.made ++ [_]).length = _
    rw [List.length_append, List.length_append, h.length]
    rfl
  · show Byte.valueLow (p.made ++ [(Byte.mulAdd x radix p.carry).1]) +
      256 ^ (seen ++ [x]).length * (Byte.mulAdd x radix p.carry).2.toNat = _
    rw [Byte.valueLow_append, Byte.valueLow_append, Byte.valueLow_singleton,
      Byte.valueLow_singleton, h.length, List.length_append, List.length_singleton, Nat.pow_succ]
    generalize 256 ^ seen.length = w at *
    -- the two halves of the product stand at this place and at the next
    calc Byte.valueLow p.made + w * (Byte.mulAdd x radix p.carry).1.toNat +
          w * 256 * (Byte.mulAdd x radix p.carry).2.toNat
        = Byte.valueLow p.made + w * ((Byte.mulAdd x radix p.carry).1.toNat +
            256 * (Byte.mulAdd x radix p.carry).2.toNat) := by ring
      _ = Byte.valueLow p.made + w * p.carry.toNat + w * x.toNat * radix.toNat := by
          rw [hproduct]
          ring
      _ = (Byte.valueLow seen + w * x.toNat) * radix.toNat + digit.toNat := by
          rw [hvalue]
          ring

/-- **The pass is balanced after any number of bytes.** -/
theorem balanced_along (radix digit : UInt8) (bytes : List UInt8) :
    Balanced radix digit bytes (along radix digit bytes) := by
  induction bytes using List.reverseRecOn with
  | nil => exact balanced_start radix digit
  | append_singleton bytes x ih =>
    rw [along_concat]
    exact ih.step x

/-- The carry is all that does not fit in the bytes made so far. -/
theorem Balanced.carry_eq (h : Balanced radix digit seen p) :
    p.carry.toNat = (Byte.valueLow seen * radix.toNat + digit.toNat) / 256 ^ seen.length := by
  have hlt := Byte.valueLow_lt p.made
  rw [h.length] at hlt
  rw [← h.value, Nat.add_mul_div_left _ _ (Nat.pow_pos (by decide)), Nat.div_eq_of_lt hlt,
    Nat.zero_add]

/-- A digit of the radix starts a pass whose carries are all digits of the radix. -/
theorem Balanced.carry_lt (h : Balanced radix digit seen p) (hd : digit < radix) :
    p.carry < radix := by
  have hdigit : digit.toNat < radix.toNat := hd
  have hseen : Byte.valueLow seen + 1 ≤ 256 ^ seen.length := Byte.valueLow_lt seen
  rw [UInt8.lt_iff_toNat_lt, h.carry_eq]
  refine Nat.div_lt_of_lt_mul ?_
  calc Byte.valueLow seen * radix.toNat + digit.toNat
      < Byte.valueLow seen * radix.toNat + radix.toNat := Nat.add_lt_add_left hdigit _
    _ = (Byte.valueLow seen + 1) * radix.toNat := (Nat.succ_mul _ _).symm
    _ ≤ 256 ^ seen.length * radix.toNat := Nat.mul_le_mul_right _ hseen

end Pass

/-! ## 3. A whole pass -/

theorem scaleAdd_eq_finish (radix digit : UInt8) (acc : List UInt8) :
    scaleAdd radix acc digit = (Pass.along radix digit acc).finish :=
  (Pass.finish_foldl radix acc ⟨[], digit⟩).symm

theorem length_scaleAdd_le (radix digit : UInt8) (acc : List UInt8) :
    (scaleAdd radix acc digit).length ≤ acc.length + 1 := by
  rw [scaleAdd_eq_finish, ← (Pass.balanced_along radix digit acc).length]
  exact Pass.length_finish_le _

/-- **A pass is exact and keeps the bytes canonical**: they stand for the number times the radix
    plus the digit, the highest of them is not zero, and there is at most one more. On the way the
    pass carries whole quotients, each below the radix, and no product outgrows two bytes. -/
theorem scaleAdd_exact {radix digit : UInt8} (hd : digit < radix) {acc : List UInt8}
    (h : NoTopZero acc) :
    let next := scaleAdd radix acc digit
    Byte.valueLow next = Byte.valueLow acc * radix.toNat + digit.toNat ∧
    NoTopZero next ∧
    next.length ≤ acc.length + 1 ∧
    next = (Pass.along radix digit acc).finish ∧
    ∀ k ≤ acc.length,
      let carry := (Pass.along radix digit (acc.take k)).carry
      carry < radix ∧
      carry.toNat = (Byte.valueLow (acc.take k) * radix.toNat + digit.toNat) / 256 ^ k ∧
      ∀ x, acc[k]? = some x → x.toNat * radix.toNat + carry.toNat < 256 ^ 2 := by
  have hr : radix ≠ 0 := by
    rintro rfl
    exact absurd hd UInt8.not_lt_zero
  refine ⟨valueLow_scaleAdd radix acc digit, noTopZero_scaleAdd hr h digit,
    length_scaleAdd_le radix digit acc, scaleAdd_eq_finish radix digit acc, fun k hk => ?_⟩
  have hbalanced := Pass.balanced_along radix digit (acc.take k)
  refine ⟨hbalanced.carry_lt hd, ?_, fun x _ => ?_⟩
  · rw [hbalanced.carry_eq, List.length_take_of_le hk]
  · have hsplit := Byte.mulAdd_value x radix (Pass.along radix digit (acc.take k)).carry
    have hlow := (Byte.mulAdd x radix (Pass.along radix digit (acc.take k)).carry).1.toNat_lt
    have hhigh := (Byte.mulAdd x radix (Pass.along radix digit (acc.take k)).carry).2.toNat_lt
    omega

/-- The highest digit of the highest radix on two full bytes: it carries itself along, and becomes a
    third byte. -/
theorem scaleAdd_exact_full_bytes :
    let acc : List UInt8 := [255, 255]
    NoTopZero acc ∧ scaleAdd 36 acc 35 = [255, 255, 35] ∧
    Byte.valueLow [255, 255, 35] = Byte.valueLow acc * 36 + 35 ∧
    NoTopZero [255, 255, 35] ∧
    (Pass.along 36 35 (acc.take 1)).carry < 36 ∧
    255 * 36 + (Pass.along 36 35 (acc.take 1)).carry.toNat < 256 ^ 2 := by
  intro acc
  have hacc : NoTopZero acc := by
    unfold NoTopZero
    decide
  have hnext : scaleAdd 36 acc 35 = [255, 255, 35] := by decide
  obtain ⟨hvalue, htop, _, _, hcarries⟩ := scaleAdd_exact (by decide : (35 : UInt8) < 36) hacc
  rw [hnext] at hvalue htop
  obtain ⟨hlt, _, hproduct⟩ := hcarries 1 (by decide)
  exact ⟨hacc, hnext, hvalue, htop, hlt, hproduct 255 rfl⟩

end Tribase.Octets
