import Tribase.Octets.Basic
import Tribase.Proofs.Numeral.Positional

/-!
# The value of octet strings

An octet string is a numeral in base 256, and what the operations on its length do to the integer
follows from that.

* `valueHigh_take`, `valueHigh_drop`: the first bytes are a quotient, the last ones a remainder;
* `value_lt`, `eq_of_value_eq`: a length and a value below `256 ^ length` name one octet string;
* `value_pad`, `value_zeroExtend`, `value_trim`: zero bytes in front do not count;
* `equivalent_iff`: two strings are equivalent where they are the same integer;
* `value_truncate`: the last `n` bytes are the remainder modulo `256 ^ n`;
* **`trim_eq_ofNat`**: without its leading zeros an octet string is the shortest encoding of its value;
* `Canonical y`: there is no leading zero byte, and so `y` is that encoding.
-/

namespace Tribase

/-! ## 1. Bytes as digits of base 256 -/

namespace Byte

theorem valueHigh_eq_positional (bytes : List UInt8) :
    valueHigh bytes = positional 256 (bytes.map UInt8.toNat) := by
  rw [positional, List.foldl_map]
  rfl

theorem toNat_lt_of_mem_map (bytes : List UInt8) : ∀ d ∈ bytes.map UInt8.toNat, d < 256 := by
  intro d hd
  obtain ⟨b, _, rfl⟩ := List.mem_map.mp hd
  exact b.toNat_lt

theorem map_toNat_injective {as bs : List UInt8} (h : as.map UInt8.toNat = bs.map UInt8.toNat) :
    as = bs :=
  (List.map_inj_right fun _ _ => UInt8.toNat_inj.mp).mp h

/-- As digits, bytes start with zero iff the first of them is zero. -/
theorem noLeadingZero_map_iff {bytes : List UInt8} :
    NoLeadingZero (bytes.map UInt8.toNat) ↔ bytes.head? ≠ some 0 := by
  have hzero : (bytes.map UInt8.toNat).head? = some 0 ↔ bytes.head? = some 0 := by
    rw [List.head?_map, Option.map_eq_some_iff]
    constructor
    · rintro ⟨b, hb, hb0⟩
      rw [hb, show b = 0 from UInt8.toNat_inj.mp hb0]
    · intro h
      exact ⟨0, h, rfl⟩
  exact not_congr hzero

theorem valueHigh_append (as bs : List UInt8) :
    valueHigh (as ++ bs) = valueHigh as * 256 ^ bs.length + valueHigh bs := by
  simp only [valueHigh_eq_positional, List.map_append, positional_append, List.length_map]

@[simp] theorem valueHigh_nil : valueHigh [] = 0 := rfl

theorem valueHigh_cons (b : UInt8) (bs : List UInt8) :
    valueHigh (b :: bs) = b.toNat * 256 ^ bs.length + valueHigh bs := by
  simp only [valueHigh_eq_positional, List.map_cons, positional_cons, List.length_map]

@[simp] theorem valueHigh_replicate_zero_append (n : Nat) (bs : List UInt8) :
    valueHigh (List.replicate n 0 ++ bs) = valueHigh bs := by
  rw [valueHigh_eq_positional, valueHigh_eq_positional, List.map_append, List.map_replicate]
  exact positional_replicate_zero_append 256 n _

theorem valueHigh_lt (bytes : List UInt8) : valueHigh bytes < 256 ^ bytes.length := by
  have h := positional_lt (toNat_lt_of_mem_map bytes)
  rwa [List.length_map, ← valueHigh_eq_positional] at h

theorem valueHigh_take_drop (bytes : List UInt8) (k : Nat) :
    valueHigh bytes =
      256 ^ (bytes.length - k) * valueHigh (bytes.take k) + valueHigh (bytes.drop k) := by
  rw [← List.length_drop, Nat.mul_comm, ← valueHigh_append, List.take_append_drop]

theorem valueHigh_drop_lt (bytes : List UInt8) (k : Nat) :
    valueHigh (bytes.drop k) < 256 ^ (bytes.length - k) := by
  rw [← List.length_drop]
  exact valueHigh_lt (bytes.drop k)

/-- The first bytes are a quotient. -/
theorem valueHigh_take (bytes : List UInt8) (k : Nat) :
    valueHigh (bytes.take k) = valueHigh bytes / 256 ^ (bytes.length - k) := by
  have hlt := valueHigh_drop_lt bytes k
  rw [valueHigh_take_drop bytes k, Nat.mul_add_div (by omega), Nat.div_eq_of_lt hlt, Nat.add_zero]

/-- The last bytes are a remainder. -/
theorem valueHigh_drop (bytes : List UInt8) (k : Nat) :
    valueHigh (bytes.drop k) = valueHigh bytes % 256 ^ (bytes.length - k) := by
  rw [valueHigh_take_drop bytes k, Nat.mul_add_mod, Nat.mod_eq_of_lt (valueHigh_drop_lt bytes k)]

/-- Least significant first and most significant first are reverses of each other. -/
theorem valueHigh_reverse (bytes : List UInt8) : valueHigh bytes.reverse = valueLow bytes := by
  induction bytes with
  | nil => rfl
  | cons b bs ih =>
    rw [List.reverse_cons, valueHigh_append, ih, valueHigh_cons, valueLow]
    simp only [List.length_singleton, List.length_nil, Nat.pow_one, Nat.pow_zero, valueHigh_nil]
    omega

theorem valueLow_append (as bs : List UInt8) :
    valueLow (as ++ bs) = valueLow as + 256 ^ as.length * valueLow bs := by
  rw [← valueHigh_reverse, ← valueHigh_reverse as, ← valueHigh_reverse bs, List.reverse_append,
    valueHigh_append, List.length_reverse, Nat.mul_comm, Nat.add_comm]

theorem valueLow_singleton (b : UInt8) : valueLow [b] = b.toNat := rfl

theorem valueLow_lt (bytes : List UInt8) : valueLow bytes < 256 ^ bytes.length := by
  rw [← valueHigh_reverse, ← List.length_reverse]
  exact valueHigh_lt bytes.reverse

theorem valueLow_lowBytes (w n : Nat) : valueLow (lowBytes w n) = n % 256 ^ w := by
  induction w generalizing n with
  | zero => simp [lowBytes, valueLow, Nat.mod_one]
  | succ w ih =>
    rw [lowBytes, valueLow, ih, UInt8.toNat_ofNat', Nat.pow_succ' (m := 256), Nat.mod_mul]

end Byte

namespace Octets

theorem value_lt (x : Octets) : x.value < 256 ^ x.length :=
  Byte.valueHigh_lt x.bytes

theorem value_lt_pow {x : Octets} {n : Nat} (h : x.length ≤ n) : x.value < 256 ^ n :=
  (value_lt x).trans_le (Nat.pow_le_pow_right (by decide) h)

/-- **Octet strings of one length are determined by their value.** -/
theorem eq_of_value_eq {a b : Octets} (hlen : a.length = b.length) (h : a.value = b.value) :
    a = b := by
  have hmap : a.bytes.map UInt8.toNat = b.bytes.map UInt8.toNat := by
    have hpos : positional 256 (a.bytes.map UInt8.toNat) = positional 256 (b.bytes.map UInt8.toNat) := by
      rw [← Byte.valueHigh_eq_positional, ← Byte.valueHigh_eq_positional]
      exact h
    refine eq_of_positional_eq_of_length ?_ (Byte.toNat_lt_of_mem_map a.bytes)
      (Byte.toNat_lt_of_mem_map b.bytes) hpos
    rw [List.length_map, List.length_map]
    exact hlen
  exact Octets.ext (Byte.map_toNat_injective hmap)

/-! ## 2. Changes of length -/

@[simp] theorem value_zeros (n : Nat) : (zeros n).value = 0 := by
  have h := Byte.valueHigh_replicate_zero_append n []
  rwa [List.append_nil] at h

@[simp] theorem value_pad (x : Octets) (n : Nat) (cap : PadCap) : (x.pad n cap).value = x.value :=
  Byte.valueHigh_replicate_zero_append (cap.clamp n) x.bytes

@[simp] theorem value_zeroExtend (x : Octets) (n : Nat) : (x.zeroExtend n).value = x.value :=
  Byte.valueHigh_replicate_zero_append (n - x.length) x.bytes

/-- At one length, the same integer is the same bytes. -/
theorem equivalent_iff {a b : Octets} : a.equivalent b = true ↔ a.value = b.value := by
  rw [equivalent, beq_iff_eq]
  constructor
  · intro h
    have hval := congrArg value h
    rwa [align, value_zeroExtend, value_zeroExtend] at hval
  · intro h
    refine eq_of_value_eq (length_align a b) ?_
    rwa [align, value_zeroExtend, value_zeroExtend]

@[simp] theorem value_trim (x : Octets) : x.trim.value = x.value :=
  Byte.valueHigh_dropWhile_zero x.bytes

/-- The last `n` bytes are the remainder modulo `256 ^ n`. -/
theorem value_truncate (x : Octets) (n : Nat) : (x.truncate n).value = x.value % 256 ^ n := by
  rw [truncate, value, Byte.valueHigh_drop]
  show x.value % 256 ^ (x.length - (x.length - n)) = x.value % 256 ^ n
  by_cases hn : n ≤ x.length
  · rw [Nat.sub_sub_self hn]
  · have hle : x.length ≤ n := Nat.le_of_not_le hn
    rw [Nat.sub_eq_zero_of_le hle, Nat.sub_zero, Nat.mod_eq_of_lt (value_lt x),
      Nat.mod_eq_of_lt (value_lt_pow hle)]

/-! ## 3. Leading zero bytes -/

/-- The zero bytes in front, and then the trimmed string. -/
theorem replicate_append_trim (x : Octets) :
    List.replicate x.leadingZeroBytes 0 ++ x.trim.bytes = x.bytes := by
  have hzero : x.bytes.takeWhile (· == 0) = List.replicate x.leadingZeroBytes 0 := by
    refine List.eq_replicate_of_mem fun b hb => ?_
    have hall := List.all_eq_true.mp (List.all_takeWhile (l := x.bytes) (p := (· == 0))) b hb
    simpa using hall
  rw [← hzero]
  exact List.takeWhile_append_dropWhile

theorem leadingZeroBytes_add_length_trim (x : Octets) :
    x.leadingZeroBytes + x.trim.length = x.length := by
  have h := congrArg List.length x.replicate_append_trim
  rwa [List.length_append, List.length_replicate] at h

theorem drop_leadingZeroBytes (x : Octets) :
    x.bytes.drop x.leadingZeroBytes = x.trim.bytes := by
  nth_rewrite 1 [← x.replicate_append_trim]
  exact List.drop_left' List.length_replicate

theorem noLeadingZero_trim (x : Octets) : NoLeadingZero (x.trim.bytes.map UInt8.toNat) := by
  have h := List.head?_dropWhile_not (· == 0) x.bytes
  refine Byte.noLeadingZero_map_iff.mpr fun hz => ?_
  rw [show x.bytes.dropWhile (· == 0) = x.trim.bytes from rfl, hz] at h
  simp at h

/-- Bytes without a leading zero stay as they are. -/
theorem trim_eq_self {x : Octets} (h : NoLeadingZero (x.bytes.map UInt8.toNat)) : x.trim = x := by
  refine Octets.ext ?_
  cases hx : x.bytes with
  | nil => rw [trim, hx]; rfl
  | cons b bs =>
    have hb : b ≠ 0 := by
      intro hz
      rw [hx, hz] at h
      exact h rfl
    rw [trim, hx]
    show List.dropWhile (· == 0) (b :: bs) = b :: bs
    rw [List.dropWhile_cons_of_neg (by simpa using hb)]

end Octets

/-! ## 4. The shortest encoding -/

theorem lt_two_pow_bitLength (n : Nat) : n < 2 ^ bitLength n := by
  unfold bitLength
  split
  · rename_i h
    rw [h]
    decide
  · exact Nat.lt_log2_self

theorem two_pow_le_of_lt_bitLength {n k : Nat} (h : k < bitLength n) : 2 ^ k ≤ n := by
  unfold bitLength at h
  split at h
  · omega
  · rename_i hn
    exact (Nat.pow_le_pow_right (by decide) (Nat.le_of_lt_succ h)).trans (Nat.log2_self_le hn)

theorem pow_256 (k : Nat) : 256 ^ k = 2 ^ (8 * k) := by
  rw [Nat.pow_mul]

/-- `byteLength n` bytes hold `n`. -/
theorem lt_pow_byteLength (n : Nat) : n < 256 ^ byteLength n := by
  have hlen : bitLength n ≤ 8 * byteLength n := by
    rw [byteLength, bytesFor_eq]
    omega
  rw [pow_256]
  exact Nat.lt_of_lt_of_le (lt_two_pow_bitLength n) (Nat.pow_le_pow_right (by decide) hlen)

/-- No fewer bytes do. -/
theorem pow_le_of_lt_byteLength {n k : Nat} (h : k < byteLength n) : 256 ^ k ≤ n := by
  rw [byteLength, bytesFor_eq] at h
  rw [pow_256]
  exact two_pow_le_of_lt_bitLength (by omega)

theorem byteLength_le_iff {n k : Nat} : byteLength n ≤ k ↔ n < 256 ^ k := by
  constructor
  · intro h
    exact Nat.lt_of_lt_of_le (lt_pow_byteLength n) (Nat.pow_le_pow_right (by decide) h)
  · intro h
    refine Nat.le_of_not_lt fun hlt => ?_
    exact Nat.lt_irrefl _ (Nat.lt_of_lt_of_le h (pow_le_of_lt_byteLength hlt))

namespace Octets

@[simp] theorem value_ofNat (n : Nat) : (ofNat n).value = n := by
  rw [value, ofNat, Byte.valueHigh_reverse, Byte.valueLow_lowBytes]
  exact Nat.mod_eq_of_lt (lt_pow_byteLength n)

theorem length_trim (x : Octets) : x.trim.length = byteLength x.value := by
  refine Nat.le_antisymm ?_ ?_
  · have hlt : positional 256 (x.trim.bytes.map UInt8.toNat) < 256 ^ byteLength x.value := by
      rw [← Byte.valueHigh_eq_positional]
      exact lt_of_eq_of_lt x.value_trim (lt_pow_byteLength x.value)
    have hle := length_le_of_positional_lt (by decide) x.noLeadingZero_trim hlt
    rwa [List.length_map] at hle
  · rw [byteLength_le_iff, ← value_trim]
    exact value_lt x.trim

/-- **Trimming gives the shortest encoding of the value.** -/
theorem trim_eq_ofNat (x : Octets) : x.trim = ofNat x.value :=
  eq_of_value_eq (by rw [length_trim, length_ofNat]) (by rw [value_trim, value_ofNat])

/-- There is no leading zero byte. -/
def Canonical (y : Octets) : Prop :=
  y.bytes.head? ≠ some 0

instance (y : Octets) : Decidable y.Canonical :=
  inferInstanceAs (Decidable (_ ≠ _))

theorem canonical_ofNat (n : Nat) : (ofNat n).Canonical := by
  have hlead := noLeadingZero_trim (ofNat n)
  rw [trim_eq_ofNat, value_ofNat] at hlead
  exact Byte.noLeadingZero_map_iff.mp hlead

/-- An integer has one encoding without a leading zero byte: the shortest. -/
theorem Canonical.eq_ofNat {y : Octets} (h : y.Canonical) : y = ofNat y.value := by
  rw [← trim_eq_ofNat, trim_eq_self (Byte.noLeadingZero_map_iff.mpr h)]

end Octets

end Tribase
