import Mathlib.Data.Nat.BitIndices
import Mathlib.Data.Nat.Size
import Tribase.Octets.Bits
import Tribase.Proofs.Octets.Arithmetic

/-!
# Counts of bits

The counts of an octet string are those of its integer: `Nat.bitIndices` are the places of the one
bits, and `Nat.size` is the place above the highest of them.

* `bitIndices_perm`: a list without repetition that holds the places of the one bits is a
  rearrangement of `bitIndices`;
* `length_bitIndices_split`, `size_split`: how the counts of a number follow from those of a high
  and a low part;
* **`onesCount_eq`**: the one bits of the string are those of the value;
* `onesCount_add_complement`: every other bit is one of the complement;
* `firstByte_cases`: the first byte other than zero has the highest one bit;
* **`leadingZeros_add_size`**: leading zeros and significant bits are all the bits of the string;
* **`toUInt64?_eq`**: the machine word holds the value, where it is below `2 ^ 64`;
* `toUInt64?_eq_some_iff`: no other word does, and none from `2 ^ 64` on;
* **`counts_measure_integer`**: the counts, the word and the encodings of both, as the integer says.
-/

namespace Tribase

/-! ## 1. One bits of numbers -/

theorem lt_of_testBit {n k i : Nat} (hn : n < 2 ^ k) (h : n.testBit i = true) : i < k := by
  refine Nat.lt_of_not_le fun hk => ?_
  rw [testBit_above hn hk] at h
  cases h

/-- The places of the one bits, in any order. -/
theorem bitIndices_perm {n : Nat} {places : List Nat} (hnodup : places.Nodup)
    (h : ∀ i, i ∈ places ↔ n.testBit i = true) : n.bitIndices.Perm places :=
  (List.perm_ext_iff_of_nodup Nat.bitIndices_nodup hnodup).mpr fun i =>
    Nat.mem_bitIndices.trans (h i).symm

/-- Below the width of the number, the places are tried one after the other. -/
theorem length_bitIndices_eq_countP {n k : Nat} (hn : n < 2 ^ k) :
    n.bitIndices.length = (List.range k).countP n.testBit := by
  have hperm : n.bitIndices.Perm ((List.range k).filter n.testBit) := by
    refine bitIndices_perm (List.nodup_range.filter _) fun i => ?_
    rw [List.mem_filter, List.mem_range]
    exact and_iff_right_of_imp (lt_of_testBit hn)
  rw [hperm.length_eq, List.countP_eq_length_filter]

/-- One bits are counted in the high and in the low part. -/
theorem length_bitIndices_split {u k : Nat} (m : Nat) (hu : u < 2 ^ k) :
    (2 ^ k * m + u).bitIndices.length = m.bitIndices.length + u.bitIndices.length := by
  have hnodup : (m.bitIndices.map (· + k) ++ u.bitIndices).Nodup := by
    refine (Nat.bitIndices_nodup.map (add_left_injective k)).append Nat.bitIndices_nodup ?_
    intro i hhigh hlow
    obtain ⟨j, _, rfl⟩ := List.mem_map.mp hhigh
    have hlt := lt_of_testBit hu (Nat.mem_bitIndices.mp hlow)
    omega
  have hperm : (2 ^ k * m + u).bitIndices.Perm (m.bitIndices.map (· + k) ++ u.bitIndices) := by
    refine bitIndices_perm hnodup fun i => ?_
    rw [Nat.testBit_two_pow_mul_add m hu, List.mem_append, List.mem_map, Nat.mem_bitIndices]
    split
    · rename_i hi
      refine or_iff_right ?_
      rintro ⟨j, _, rfl⟩
      omega
    · rename_i hi
      constructor
      · rintro (⟨j, hj, rfl⟩ | hlow)
        · rw [Nat.add_sub_cancel]
          exact Nat.mem_bitIndices.mp hj
        · exact absurd (lt_of_testBit hu hlow) hi
      · intro hhigh
        exact .inl ⟨i - k, Nat.mem_bitIndices.mpr hhigh, Nat.sub_add_cancel (Nat.le_of_not_lt hi)⟩
  rw [hperm.length_eq, List.length_append, List.length_map]

/-! ## 2. Significant bits of numbers -/

theorem bitLength_eq_size (n : Nat) : bitLength n = n.size := by
  refine Nat.le_antisymm ?_ (Nat.size_le.mpr (lt_two_pow_bitLength n))
  refine Nat.le_of_not_lt fun h => ?_
  exact Nat.lt_irrefl n ((Nat.lt_size_self n).trans_le (two_pow_le_of_lt_bitLength h))

/-- The high part decides, if it is there. -/
theorem size_split {u k m : Nat} (hm : m ≠ 0) (hu : u < 2 ^ k) :
    (2 ^ k * m + u).size = k + m.size := by
  refine Nat.le_antisymm (Nat.size_le.mpr ?_) ?_
  · have hlt : m + 1 ≤ 2 ^ m.size := Nat.lt_size_self m
    have hmul := Nat.mul_le_mul_left (2 ^ k) hlt
    rw [Nat.mul_add, Nat.mul_one, ← Nat.pow_add] at hmul
    omega
  · obtain ⟨s, hs⟩ := Nat.exists_eq_succ_of_ne_zero fun h => hm (Nat.size_eq_zero.mp h)
    have hle : 2 ^ s ≤ m := Nat.lt_size.mp (by omega)
    have hmul := Nat.mul_le_mul_left (2 ^ k) hle
    rw [← Nat.pow_add] at hmul
    rw [hs]
    exact Nat.lt_size.mpr (hmul.trans (Nat.le_add_right _ u))

/-! ## 3. Counts of octet strings -/

theorem Byte.onesCount_eq_length (b : UInt8) : onesCount b = b.toNat.bitIndices.length :=
  (length_bitIndices_eq_countP b.toNat_lt).symm

namespace Octets

theorem foldl_onesCount (bytes : List UInt8) (n : Nat) :
    bytes.foldl (fun n b => n + Byte.onesCount b) n =
      n + (Byte.valueHigh bytes).bitIndices.length := by
  induction bytes generalizing n with
  | nil => rfl
  | cons b bs ih =>
    rw [List.foldl_cons, ih, Byte.valueHigh_cons_two_pow,
      length_bitIndices_split _ (Byte.valueHigh_lt_two_pow bs), Byte.onesCount_eq_length]
    omega

/-- **The one bits are those of the value.** -/
theorem onesCount_eq (x : Octets) : x.onesCount = x.value.bitIndices.length :=
  (foldl_onesCount x.bytes 0).trans (Nat.zero_add _)

/-- Each bit of the string is a one bit, or a one bit of the complement. -/
theorem onesCount_add_complement (x : Octets) :
    x.onesCount + x.complement.onesCount = 8 * x.length := by
  have hcomplement := x.complement.value_lt_two_pow
  rw [length_complement] at hcomplement
  have hother : (List.range (8 * x.length)).countP x.complement.value.testBit =
      (List.range (8 * x.length)).countP fun i => !x.value.testBit i := by
    refine List.countP_congr fun i hi => ?_
    rw [testBit_complement (List.mem_range.mp hi)]
  have hall := List.length_eq_countP_add_countP x.value.testBit (l := List.range (8 * x.length))
  rw [onesCount_eq, onesCount_eq, length_bitIndices_eq_countP x.value_lt_two_pow,
    length_bitIndices_eq_countP hcomplement, hother]
  simpa using hall.symm

/-- The byte behind the leading zero bytes has the highest one bit; where there is no such byte, the
    string is all zeros. -/
theorem firstByte_cases (x : Octets) :
    x.bytes[x.leadingZeroBytes]? = none ∧ x.leadingZeroBytes = x.length ∧ x.value.size = 0 ∨
    ∃ b, x.bytes[x.leadingZeroBytes]? = some b ∧ x.leadingZeroBytes < x.length ∧
      x.value.size = b.toNat.size + 8 * (x.length - 1 - x.leadingZeroBytes) := by
  have hlen := x.leadingZeroBytes_add_length_trim
  have hfirst : x.bytes[x.leadingZeroBytes]? = x.trim.bytes.head? := by
    rw [← x.drop_leadingZeroBytes, List.head?_drop]
  rw [hfirst, ← x.value_trim]
  cases htrim : x.trim.bytes with
  | nil =>
    have hzero : x.trim.value = 0 := congrArg Byte.valueHigh htrim
    have hnone : x.trim.length = 0 := congrArg List.length htrim
    exact .inl ⟨rfl, by omega, by rw [hzero, Nat.size_zero]⟩
  | cons b bs =>
    have hb : b.toNat ≠ 0 := by
      intro hz
      have hlead := x.noLeadingZero_trim
      rw [htrim, List.map_cons, hz] at hlead
      exact hlead rfl
    have hval : x.trim.value = 2 ^ (8 * bs.length) * b.toNat + Byte.valueHigh bs :=
      (congrArg Byte.valueHigh htrim).trans (Byte.valueHigh_cons_two_pow b bs)
    have hcount : x.trim.length = bs.length + 1 := congrArg List.length htrim
    refine .inr ⟨b, rfl, by omega, ?_⟩
    rw [hval, size_split hb (Byte.valueHigh_lt_two_pow bs)]
    omega

theorem bitLength_eq (x : Octets) : x.bitLength = x.value.size := by
  rw [bitLength]
  rcases x.firstByte_cases with ⟨hfirst, _, hsize⟩ | ⟨b, hfirst, _, hsize⟩
  · rw [hfirst, hsize]
  · simp only [hfirst, hsize, bitLength_eq_size]

/-- **Leading zeros and significant bits** are all the bits of the string. -/
theorem leadingZeros_add_size (x : Octets) : x.leadingZeros + x.value.size = 8 * x.length := by
  rw [leadingZeros]
  rcases x.firstByte_cases with ⟨hfirst, hall, hsize⟩ | ⟨b, hfirst, hlt, hsize⟩
  · rw [hfirst, hsize, hall, Nat.add_zero]
  · -- the bits of the byte itself are shared out between the two
    have hbits : b.toNat.size ≤ 8 := Nat.size_le.mpr b.toNat_lt
    simp only [hfirst, hsize, Byte.leadingZeros, bitLength_eq_size]
    omega

theorem leadingZeros_eq (x : Octets) : x.leadingZeros = 8 * x.length - x.value.size :=
  Nat.eq_sub_of_add_eq x.leadingZeros_add_size

/-! ## 4. Machine words -/

/-- A word takes in one more byte; what leaves it at the top is lost on both sides. -/
theorem word_shift_or (v : Nat) (b : UInt8) :
    (UInt64.ofNat v <<< 8) ||| b.toUInt64 = UInt64.ofNat (v * 256 + b.toNat) := by
  have hb : b.toNat < 2 ^ 8 := b.toNat_lt
  have hsplit : v * 256 + b.toNat = 2 ^ 8 * v + b.toNat := by omega
  have hplaces : (8 : UInt64).toNat % 64 = 8 := rfl
  refine UInt64.toNat_inj.mp (Nat.eq_of_testBit_eq fun i => ?_)
  rw [UInt64.toNat_or, UInt64.toNat_shiftLeft, UInt64.toNat_ofNat', UInt64.toNat_ofNat',
    UInt8.toNat_toUInt64, hplaces, hsplit, Nat.testBit_or, Nat.testBit_mod_two_pow,
    Nat.testBit_mod_two_pow, Nat.testBit_two_pow_mul_add v hb, Nat.testBit_shiftLeft,
    Nat.testBit_mod_two_pow]
  by_cases hi : i < 8
  · simp [hi, show i < 64 by omega]
  · have hge : 8 ≤ i := Nat.le_of_not_lt hi
    by_cases hw : i < 64
    · simp [hi, hge, testBit_above hb hge, hw, show i - 8 < 64 by omega]
    · simp [testBit_above hb hge, hw]

theorem foldl_word (bytes : List UInt8) (v : Nat) :
    bytes.foldl (fun (word : UInt64) b => (word <<< 8) ||| b.toUInt64) (UInt64.ofNat v) =
      UInt64.ofNat (Byte.horner v bytes) := by
  induction bytes generalizing v with
  | nil => rfl
  | cons b bs ih => rw [List.foldl_cons, word_shift_or, ih, Byte.horner_cons]

/-- **The machine word holds the value**, where it is small enough. -/
theorem toUInt64?_eq (x : Octets) :
    x.toUInt64? = if x.value < 2 ^ 64 then some (UInt64.ofNat x.value) else none := by
  have hword : x.trim.bytes.foldl (fun (word : UInt64) b => (word <<< 8) ||| b.toUInt64) 0 =
      UInt64.ofNat x.value := by
    rw [← x.value_trim]
    exact foldl_word x.trim.bytes 0
  rw [toUInt64?, bitLength_eq, drop_leadingZeroBytes, hword]
  simp only [Nat.size_le]

theorem toUInt64?_cases (x : Octets) :
    (∃ word, x.toUInt64? = some word ∧ word.toNat = x.value) ∨
      x.toUInt64? = none ∧ 2 ^ 64 ≤ x.value := by
  rw [toUInt64?_eq]
  by_cases h : x.value < 2 ^ 64
  · rw [if_pos h]
    exact .inl ⟨_, rfl, UInt64.toNat_ofNat_of_lt' h⟩
  · rw [if_neg h]
    exact .inr ⟨rfl, Nat.le_of_not_lt h⟩

section

variable {x : Octets}

/-- **The word is the one with the value of the string**, whatever its leading zeros. -/
theorem toUInt64?_eq_some_iff {word : UInt64} :
    x.toUInt64? = some word ↔ word.toNat = x.value := by
  rcases x.toUInt64?_cases with ⟨held, hheld, hvalue⟩ | ⟨hnone, hle⟩
  · rw [hheld, Option.some_inj, ← hvalue, UInt64.toNat_inj, eq_comm]
  · have hlt : word.toNat < 2 ^ 64 := word.toNat_lt
    rw [hnone]
    refine iff_of_false (Option.some_ne_none word).symm ?_
    omega

theorem toUInt64?_eq_none_iff : x.toUInt64? = none ↔ 2 ^ 64 ≤ x.value := by
  rcases x.toUInt64?_cases with ⟨held, hheld, hvalue⟩ | ⟨hnone, hle⟩
  · have hlt : held.toNat < 2 ^ 64 := held.toNat_lt
    rw [hheld]
    refine iff_of_false (Option.some_ne_none held) ?_
    omega
  · exact iff_of_true hnone hle

end

/-- A number that is small enough comes back from its encoding as a machine word. -/
theorem toUInt64?_ofNat {n : Nat} (h : n < 2 ^ 64) :
    (ofNat n).toUInt64? = some (UInt64.ofNat n) := by
  rw [toUInt64?_eq_some_iff, value_ofNat, UInt64.toNat_ofNat_of_lt' h]

/-! ## 5. What is counted of the integer -/

/-- **Counts and machine words are those of the integer.** The significant bits are its bit length,
    and the leading zeros are the rest of the string; its one bits are counted, and with those of
    the complement they are all bits. The machine word is its value, where that is below `2 ^ 64`. A
    word is encoded without leading zero bytes, so the encoding of the word is the trimmed string.
    The counts are encoded as machine words, and come back from their encodings. -/
theorem counts_measure_integer {x : Octets} (h : 8 * x.length < 2 ^ 64) :
    x.bitLength = x.value.size ∧
    x.leadingZeros + x.bitLength = 8 * x.length ∧
    x.onesCount = x.value.bitIndices.length ∧
    x.onesCount + x.complement.onesCount = 8 * x.length ∧
    (∀ word, x.toUInt64? = some word ↔ word.toNat = x.value) ∧
    (x.toUInt64? = none ↔ 2 ^ 64 ≤ x.value) ∧
    (∀ n : UInt64, ofWord n = ofNat n.toNat ∧ (ofNat n.toNat).Canonical ∧
      (ofNat n.toNat).value = n.toNat ∧ (ofNat n.toNat).toUInt64? = some n) ∧
    (∀ word, x.toUInt64? = some word → ofNat word.toNat = x.trim) ∧
    x.popcount = ofWord (.ofNat x.onesCount) ∧
    x.clz = ofWord (.ofNat x.leadingZeros) ∧
    x.nbits = ofWord (.ofNat x.bitLength) ∧
    x.popcount.toUInt64?.map UInt64.toNat = some x.onesCount ∧
    x.clz.toUInt64?.map UInt64.toNat = some x.leadingZeros ∧
    x.nbits.toUInt64?.map UInt64.toNat = some x.bitLength := by
  have hbits := x.bitLength_eq
  have hzeros := x.leadingZeros_add_size
  rw [← hbits] at hzeros
  have hones := x.onesCount_add_complement
  -- no count exceeds the number of bits, so each of them is a machine word
  have hword : ∀ n ≤ 8 * x.length, (UInt64.ofNat n).toNat = n := fun n hn =>
    UInt64.toNat_ofNat_of_lt' (Nat.lt_of_le_of_lt hn h)
  have hencode : ∀ n ≤ 8 * x.length, ofNat n = ofWord (.ofNat n) := by
    intro n hn
    rw [ofWord_eq_ofNat, hword n hn]
  have hcount : ∀ n ≤ 8 * x.length, (ofNat n).toUInt64?.map UInt64.toNat = some n := by
    intro n hn
    rw [toUInt64?_ofNat (Nat.lt_of_le_of_lt hn h), Option.map_some, hword n hn]
  have hones_le : x.onesCount ≤ 8 * x.length := by omega
  have hzeros_le : x.leadingZeros ≤ 8 * x.length := by omega
  have hbits_le : x.bitLength ≤ 8 * x.length := by omega
  refine ⟨hbits, hzeros, x.onesCount_eq, hones, fun _ => toUInt64?_eq_some_iff,
    toUInt64?_eq_none_iff, fun n => ⟨ofWord_eq_ofNat n, canonical_ofNat _, value_ofNat _, ?_⟩, ?_,
    hencode _ hones_le, hencode _ hzeros_le, hencode _ hbits_le,
    hcount _ hones_le, hcount _ hzeros_le, hcount _ hbits_le⟩
  · rw [toUInt64?_ofNat n.toNat_lt, UInt64.ofNat_toNat]
  · intro word hword
    rw [toUInt64?_eq_some_iff.mp hword, trim_eq_ofNat]

/-- Thirteen bits behind nine zero bytes. -/
theorem counts_measure_integer_thirteen_bits :
    let x : Octets := ⟨[0, 0, 0, 0, 0, 0, 0, 0, 0, 0x12, 0x34]⟩
    8 * x.length < 2 ^ 64 ∧ x.bitLength = 13 ∧ x.leadingZeros = 75 ∧ x.complement.onesCount = 83 ∧
      x.toUInt64? = some 0x1234 ∧ ofNat 0x1234 = ⟨[0x12, 0x34]⟩ ∧
      x.clz.toUInt64?.map UInt64.toNat = some 75 := by
  intro x
  have hfit : 8 * x.length < 2 ^ 64 := by decide
  obtain ⟨_, hzeros, _, hones, hword, _, _, htrim, _, _, _, _, hclz, _⟩ :=
    counts_measure_integer hfit
  have hbits : x.bitLength = 13 := by decide
  have hcount : x.onesCount = 5 := by decide
  have hlength : x.length = 11 := rfl
  have hsome : x.toUInt64? = some 0x1234 := (hword 0x1234).mpr (by decide)
  rw [hbits, hlength] at hzeros
  rw [hcount, hlength] at hones
  have hleading : x.leadingZeros = 75 := by omega
  exact ⟨hfit, hbits, hleading, by omega, hsome, htrim 0x1234 hsome, hleading ▸ hclz⟩

end Octets

end Tribase
