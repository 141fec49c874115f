import Tribase.Proofs.Octets.Value

/-!
# The order of the integers

Brought to one length, octet strings are ordered by the first byte that differs. Since that byte
counts for more than all bytes behind it, this is the order of the integers.

* `valueHigh_lt_of_head_lt`: the first byte decides, if it differs;
* **`compare_bytes`**: strings of one length are ordered as their integers;
* `compareValue_eq`: so are strings of any lengths, once they are aligned;
* `trim_eq_trim_iff`, **`eq_trim_iff`**: trimming keeps the integer and nothing else, and the result is
  the shortest string for it;
* `endsWith_iff`: the last bytes are a remainder;
* **`compareValue_orders_integers`**: all of it together.
-/

namespace Tribase

/-! ## 1. Strings of one length -/

namespace Byte

variable {xs ys : List UInt8}

/-- **The first byte decides, if it differs**: a step of it outweighs all bytes behind it. -/
theorem valueHigh_lt_of_head_lt {x y : UInt8} (h : x < y) (hlen : xs.length = ys.length) :
    valueHigh (x :: xs) < valueHigh (y :: ys) := by
  have hrest := valueHigh_lt xs
  have hstep : (x.toNat + 1) * 256 ^ xs.length ≤ y.toNat * 256 ^ xs.length :=
    Nat.mul_le_mul_right _ h
  rw [Nat.add_mul, Nat.one_mul] at hstep
  rw [valueHigh_cons, valueHigh_cons, ← hlen]
  omega

/-- **Strings of one length are ordered as their integers.** -/
theorem compare_bytes (hlen : xs.length = ys.length) :
    compare xs ys = compare (valueHigh xs) (valueHigh ys) := by
  induction xs generalizing ys with
  | nil =>
    obtain rfl : ys = [] := List.eq_nil_of_length_eq_zero hlen.symm
    rfl
  | cons x xs ih =>
    cases ys with
    | nil => cases hlen
    | cons y ys =>
      have hrest : xs.length = ys.length := Nat.succ.inj hlen
      rw [List.compare_cons_cons]
      cases hhead : compare x y with
      | lt =>
        have hlt : x < y := Std.compare_eq_lt.mp hhead
        exact (Nat.compare_eq_lt.mpr (valueHigh_lt_of_head_lt hlt hrest)).symm
      | eq =>
        -- the same byte in front adds the same to both
        obtain rfl : x = y := Std.compare_eq_iff_eq.mp hhead
        rw [Ordering.then, ih hrest, valueHigh_cons, valueHigh_cons, hrest,
          Nat.compare_eq_ite_lt, Nat.compare_eq_ite_lt]
        simp
      | gt =>
        have hgt : y < x := Std.compare_eq_gt.mp hhead
        exact (Nat.compare_eq_gt.mpr (valueHigh_lt_of_head_lt hgt hrest.symm)).symm

end Byte

/-! ## 2. Strings of any lengths -/

namespace Octets

theorem compareValue_eq (a b : Octets) : a.compareValue b = compare a.value b.value := by
  have ha : Byte.valueHigh (a.align b).1.bytes = a.value := value_zeroExtend a b.length
  have hb : Byte.valueHigh (a.align b).2.bytes = b.value := value_zeroExtend b a.length
  rw [compareValue, Byte.compare_bytes (length_align a b), ha, hb]

theorem isGreater_iff {a b : Octets} : a.isGreater b = true ↔ b.value < a.value := by
  rw [isGreater, beq_iff_eq, compareValue_eq, Nat.compare_eq_gt]

theorem isGreaterOrEqual_iff {a b : Octets} :
    a.isGreaterOrEqual b = true ↔ b.value ≤ a.value := by
  rw [isGreaterOrEqual, bne_iff_ne, compareValue_eq, Nat.compare_ne_lt]

theorem equivalent_iff_compareValue {a b : Octets} :
    a.equivalent b = true ↔ a.compareValue b = .eq := by
  rw [equivalent_iff, compareValue_eq, Nat.compare_eq_eq]

/-! ## 3. The shortest string -/

/-- Trimming keeps the integer and nothing else. -/
theorem trim_eq_trim_iff {a b : Octets} : a.trim = b.trim ↔ a.value = b.value := by
  constructor
  · intro h
    rw [← value_trim a, h, value_trim]
  · intro h
    rw [trim_eq_ofNat, trim_eq_ofNat, h]

theorem length_trim_le {x y : Octets} (h : y.value = x.value) : x.trim.length ≤ y.length := by
  rw [length_trim, byteLength_le_iff, ← h]
  exact value_lt y

/-- **The trimmed string is the shortest one with its value**, and no other is as short. -/
theorem eq_trim_iff {x y : Octets} :
    y = x.trim ↔ y.value = x.value ∧ ∀ z : Octets, z.value = x.value → y.length ≤ z.length := by
  constructor
  · rintro rfl
    exact ⟨value_trim x, fun z hz => length_trim_le hz⟩
  · rintro ⟨hvalue, hleast⟩
    refine eq_of_value_eq (Nat.le_antisymm (hleast x.trim (value_trim x)) ?_) ?_
    · exact length_trim_le hvalue
    · rw [hvalue, value_trim]

/-! ## 4. The last bytes -/

/-- A string ends another where it is what the other leaves at its length. -/
theorem endsWith_iff_truncate {a b : Octets} :
    a.endsWith b = true ↔ b = a.truncate b.length := by
  rw [endsWith, List.isSuffixOf_iff_suffix, List.suffix_iff_eq_drop]
  exact Octets.ext_iff.symm

/-- **The last bytes are a remainder.** -/
theorem endsWith_iff {a b : Octets} :
    a.endsWith b = true ↔ b.length ≤ a.length ∧ a.value % 256 ^ b.length = b.value := by
  rw [endsWith_iff_truncate]
  constructor
  · intro h
    have hlen := congrArg length h
    have hvalue := congrArg value h
    rw [length_truncate] at hlen
    rw [value_truncate] at hvalue
    exact ⟨by omega, hvalue.symm⟩
  · rintro ⟨hlen, hvalue⟩
    refine eq_of_value_eq ?_ ?_
    · rw [length_truncate, Nat.min_eq_right hlen]
    · rw [value_truncate, hvalue]

/-- **Comparison is the order of the integers, and trimming is canonical**: strings are equivalent
    where the integers are equal, where comparison finds no difference, and where the trimmed
    strings are the same bytes; a trimmed string is the one shortest string with its value; and a
    string ends another where it is the other's remainder at its length. -/
theorem compareValue_orders_integers (a b : Octets) :
    a.compareValue b = compare a.value b.value ∧
    (a.isGreater b = true ↔ b.value < a.value) ∧
    (a.isGreaterOrEqual b = true ↔ b.value ≤ a.value) ∧
    (a.equivalent b = true ↔ a.value = b.value) ∧
    (a.equivalent b = true ↔ a.compareValue b = .eq) ∧
    (a.equivalent b = true ↔ a.trim = b.trim) ∧
    (∀ y : Octets, y = a.trim ↔
      y.value = a.value ∧ ∀ z : Octets, z.value = a.value → y.length ≤ z.length) ∧
    (a.endsWith b = true ↔ b.length ≤ a.length ∧ a.value % 256 ^ b.length = b.value) :=
  ⟨compareValue_eq a b, isGreater_iff, isGreaterOrEqual_iff, equivalent_iff,
    equivalent_iff_compareValue, equivalent_iff.trans trim_eq_trim_iff.symm, fun _ => eq_trim_iff,
    endsWith_iff⟩

end Octets

end Tribase
