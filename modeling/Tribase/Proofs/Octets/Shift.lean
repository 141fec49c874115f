import Tribase.Proofs.Octets.Reorder

/-!
# Shifts

Both shifts move whole bytes first and then put each byte together from two neighbours. The second
half is one construction: a byte of the result is eight bits of two neighbouring bytes, from some
place on, and it is the same place throughout the string.

* `Joins k f`: the function takes the eight bits from place `k` on;
* **`valueHigh_zipWith_joins`**: the string of all those bytes is the quotient by `2 ^ k`;
* `valueHigh_moveRight`, `valueHigh_moveLeft`: what the whole bytes do;
* `value_shiftRight_of_lt`, `value_shiftLeft_of_lt`: what the shifts do to the integer below the full
  width, and `shiftRight_of_le`, `shiftLeft_of_le` from there on;
* **`shifts_divide_multiply`**: the shifts divide and multiply by powers of two, by amounts of any size;
* `testBit_shiftRight`, `testBit_shiftLeft`: where the bits go;
* **`reverseBitstring_exchanges_shifts`**: turned round, one shift is the other.
-/

namespace Tribase

/-! ## 1. Joined bytes -/

/-- The function takes eight bits of two neighbouring bytes, those from place `k` on. -/
def Byte.Joins (k : Nat) (f : UInt8 → UInt8 → UInt8) : Prop :=
  ∀ above byte, (f above byte).toNat = (above.toNat * 256 + byte.toNat) / 2 ^ k % 256

namespace Octets

theorem toNat_ofNat_mod_eight {r : Nat} (hr : r < 8) : (UInt8.ofNat r).toNat % 8 = r := by
  rw [UInt8.toNat_ofNat', Nat.mod_eq_of_lt (show r < 2 ^ 8 by omega), Nat.mod_eq_of_lt hr]

theorem joins_joinRight {r : Nat} (hr : r < 8) : Byte.Joins r (joinRight r) := by
  intro above byte
  have hbyte : byte.toNat < 2 ^ 8 := byte.toNat_lt
  have hsplit : above.toNat * 256 + byte.toNat = 2 ^ 8 * above.toNat + byte.toNat := by omega
  unfold joinRight
  by_cases hzero : r = 0
  · rw [if_pos hzero, hzero]
    omega
  · rw [if_neg hzero, hsplit, UInt8.toNat_or, UInt8.toNat_shiftRight, UInt8.toNat_shiftLeft,
      toNat_ofNat_mod_eight hr, toNat_ofNat_mod_eight (show 8 - r < 8 by omega)]
    refine Nat.eq_of_testBit_eq fun j => ?_
    rw [show 256 = 2 ^ 8 from rfl, Nat.testBit_or, Nat.testBit_shiftRight, Nat.testBit_mod_two_pow,
      Nat.testBit_shiftLeft, Nat.testBit_mod_two_pow, Nat.testBit_div_two_pow,
      Nat.testBit_two_pow_mul_add _ hbyte]
    -- bits that were in `byte` come first, then those of `above`, and then none
    by_cases hlow : j + r < 8
    · simp [hlow, Nat.add_comm r j, show j < 8 by omega, show ¬ 8 - r ≤ j by omega]
    · rw [Nat.add_comm r j, testBit_above hbyte (Nat.le_of_not_lt hlow)]
      simp [hlow, show 8 - r ≤ j by omega, show j - (8 - r) = j + r - 8 by omega]

/-- To the left by `r` is to the right by what is missing to a whole byte. -/
theorem joins_joinLeft {r : Nat} (hr : r < 8) : Byte.Joins (8 - r) (joinLeft r) := by
  by_cases hzero : r = 0
  · intro byte below
    have hbyte := byte.toNat_lt
    have hbelow := below.toNat_lt
    rw [joinLeft, if_pos hzero, hzero]
    omega
  · have hsame : joinLeft r = joinRight (8 - r) := by
      funext byte below
      rw [joinLeft, joinRight, if_neg hzero, if_neg (show ¬ 8 - r = 0 by omega),
        Nat.sub_sub_self (by omega), UInt8.or_comm]
    rw [hsame]
    exact joins_joinRight (by omega)

end Octets

namespace Byte

variable {k : Nat} {f : UInt8 → UInt8 → UInt8}

theorem two_pow_mul_two_pow_sub (hk : k ≤ 8) : 2 ^ k * 2 ^ (8 - k) = 256 := by
  rw [← Nat.pow_add, Nat.add_sub_of_le hk]

/-- Below the length of the rest, the quotient does not show the byte in front. -/
theorem valueHigh_cons_div_mod (hk : k ≤ 8) (above b : UInt8) (bs : List UInt8) :
    valueHigh (above :: b :: bs) / 2 ^ k % 256 ^ bs.length =
      valueHigh (b :: bs) / 2 ^ k % 256 ^ bs.length := by
  have hmove : above.toNat * 256 ^ (bs.length + 1) =
      2 ^ k * (256 ^ bs.length * (2 ^ (8 - k) * above.toNat)) := by
    calc above.toNat * 256 ^ (bs.length + 1)
        = 256 * (256 ^ bs.length * above.toNat) := by ring
      _ = 2 ^ k * 2 ^ (8 - k) * (256 ^ bs.length * above.toNat) := by
          rw [two_pow_mul_two_pow_sub hk]
      _ = 2 ^ k * (256 ^ bs.length * (2 ^ (8 - k) * above.toNat)) := by ring
  rw [valueHigh_cons above, List.length_cons, hmove, Nat.mul_add_div (Nat.two_pow_pos k),
    Nat.mul_add_mod]

/-- The two bytes in front are left of the quotient by the rest. -/
theorem valueHigh_cons_cons_div (above b : UInt8) (bs : List UInt8) :
    valueHigh (above :: b :: bs) / 256 ^ bs.length = above.toNat * 256 + b.toNat := by
  have hfront := valueHigh_take (above :: b :: bs) 2
  have htwo : valueHigh [above, b] = above.toNat * 256 + b.toNat := by simp [valueHigh]
  exact hfront.symm.trans htwo

/-- **The string of all joined bytes is a quotient**, cut to the length. -/
theorem valueHigh_zipWith_joins (hf : Joins k f) (hk : k ≤ 8) (above : UInt8)
    (bytes : List UInt8) :
    valueHigh (List.zipWith f (above :: bytes) bytes) =
      valueHigh (above :: bytes) / 2 ^ k % 256 ^ bytes.length := by
  induction bytes generalizing above with
  | nil => simp [Nat.mod_one]
  | cons b bs ih =>
    have hlen : (List.zipWith f (b :: bs) bs).length = bs.length := by simp
    calc valueHigh (List.zipWith f (above :: b :: bs) (b :: bs))
        = (f above b).toNat * 256 ^ bs.length + valueHigh (List.zipWith f (b :: bs) bs) := by
          rw [List.zipWith_cons_cons, valueHigh_cons, hlen]
      _ = (above.toNat * 256 + b.toNat) / 2 ^ k % 256 * 256 ^ bs.length +
            valueHigh (b :: bs) / 2 ^ k % 256 ^ bs.length := by rw [hf above b, ih b]
      _ = valueHigh (above :: b :: bs) / 2 ^ k / 256 ^ bs.length % 256 * 256 ^ bs.length +
            valueHigh (above :: b :: bs) / 2 ^ k % 256 ^ bs.length := by
          rw [Nat.div_right_comm, valueHigh_cons_cons_div, valueHigh_cons_div_mod hk above b bs]
      _ = valueHigh (above :: b :: bs) / 2 ^ k % 256 ^ (bs.length + 1) := by
          rw [Nat.pow_succ, Nat.mod_mul, Nat.mul_comm, Nat.add_comm]

/-- With nothing in front, the quotient by the places of the shift. -/
theorem valueHigh_joinRight {r : Nat} (hr : r < 8) (bytes : List UInt8) :
    valueHigh (List.zipWith (Octets.joinRight r) (0 :: bytes) bytes) = valueHigh bytes / 2 ^ r := by
  have hzero : valueHigh (0 :: bytes) = valueHigh bytes := valueHigh_replicate_zero_append 1 bytes
  rw [valueHigh_zipWith_joins (Octets.joins_joinRight hr) hr.le, hzero, Nat.mod_eq_of_lt]
  exact (Nat.div_le_self _ _).trans_lt (valueHigh_lt bytes)

/-- With nothing behind, the product, cut to the length. -/
theorem valueHigh_joinLeft {r : Nat} (hr : r < 8) (bytes : List UInt8) :
    valueHigh (List.zipWith (Octets.joinLeft r) bytes (bytes.drop 1 ++ [0])) =
      valueHigh bytes * 2 ^ r % 256 ^ bytes.length := by
  cases bytes with
  | nil => simp [Nat.mod_one]
  | cons b bs =>
    have hpow : 2 ^ (8 - r) * 2 ^ r = 256 := by
      rw [Nat.mul_comm, two_pow_mul_two_pow_sub hr.le]
    -- a byte more on the left changes nothing: there is none beside it
    have hfill : List.zipWith (Octets.joinLeft r) (b :: (bs ++ [0])) (bs ++ [0]) =
        List.zipWith (Octets.joinLeft r) (b :: bs) (bs ++ [0]) := by
      have happend : List.zipWith (Octets.joinLeft r) ((b :: bs) ++ [0]) ((bs ++ [0]) ++ []) =
          List.zipWith (Octets.joinLeft r) (b :: bs) (bs ++ [0]) ++ [] :=
        List.zipWith_append (by simp)
      simpa using happend
    have hshifted : valueHigh (b :: (bs ++ [0])) = 2 ^ (8 - r) * (valueHigh (b :: bs) * 2 ^ r) := by
      have happend := valueHigh_append (b :: bs) [0]
      have hlast : valueHigh [0] = 0 := rfl
      rw [List.length_singleton, Nat.pow_one, hlast, Nat.add_zero] at happend
      rw [← List.cons_append, happend, Nat.mul_left_comm, hpow]
    rw [List.drop_one, List.tail_cons, ← hfill,
      valueHigh_zipWith_joins (Octets.joins_joinLeft hr) (Nat.sub_le 8 r), hshifted,
      Nat.mul_div_cancel_left _ (Nat.two_pow_pos _)]
    simp

end Byte

/-! ## 2. The integer -/

namespace Byte

variable {bytes : List UInt8} {d : Nat}

/-- Whole bytes to the right leave a quotient. -/
theorem valueHigh_moveRight (hd : d ≤ bytes.length) :
    valueHigh ((List.replicate d 0 ++ bytes).take bytes.length) = valueHigh bytes / 256 ^ d := by
  have hzeros : (List.replicate d (0 : UInt8)).take bytes.length = List.replicate d 0 :=
    List.take_of_length_le (by simpa using hd)
  rw [List.take_append, hzeros, List.length_replicate, valueHigh_replicate_zero_append,
    valueHigh_take, Nat.sub_sub_self hd]

/-- Whole bytes to the left leave a product, cut to the length. -/
theorem valueHigh_moveLeft (hd : d ≤ bytes.length) :
    valueHigh (bytes.drop d ++ List.replicate d 0) =
      valueHigh bytes * 256 ^ d % 256 ^ bytes.length := by
  have hzero : valueHigh (List.replicate d 0) = 0 := Octets.value_zeros d
  rw [valueHigh_append, valueHigh_drop, List.length_replicate, hzero, Nat.add_zero,
    ← Nat.mul_mod_mul_right, ← Nat.pow_add, Nat.sub_add_cancel hd]

end Byte

namespace Octets

theorem lt_of_lt_wordWidth {x : Octets} {s : Nat} (h : s < x.wordWidth) : s < 8 * x.length :=
  h.trans_le (Nat.min_le_left _ _)

/-- Below the full width, whole bytes of the string stay. -/
theorem div_eight_le_length {x : Octets} {s : Nat} (h : s < x.wordWidth) : s / 8 ≤ x.length := by
  have hlt := lt_of_lt_wordWidth h
  omega

theorem wordWidth_eq {x : Octets} (h : 8 * x.length < 2 ^ 64) : x.wordWidth = 8 * x.length :=
  Nat.min_eq_left (Nat.le_pred_of_lt h)

section

variable {x : Octets} {s : Nat}

/-- From the full width on, no bit is left. -/
theorem shiftRight_of_le (h : x.wordWidth ≤ s) : x.shiftRight s = zeros x.length :=
  if_pos h

theorem shiftLeft_of_le (h : x.wordWidth ≤ s) : x.shiftLeft s = zeros x.length :=
  if_pos h

/-- The whole bytes and the rest of the amount make up the power of two. -/
theorem two_pow_eq (s : Nat) : 2 ^ s = 256 ^ (s / 8) * 2 ^ (s % 8) := by
  rw [pow_256, ← Nat.pow_add, Nat.div_add_mod]

theorem value_shiftRight_of_lt (h : s < x.wordWidth) : (x.shiftRight s).value = x.value / 2 ^ s := by
  have hmoved := Byte.valueHigh_moveRight (div_eight_le_length h)
  rw [shiftRight, if_neg (Nat.not_le_of_lt h), two_pow_eq, ← Nat.div_div_eq_div_mul]
  show Byte.valueHigh (List.zipWith (joinRight (s % 8)) _ _) = _
  rw [Byte.valueHigh_joinRight (Nat.mod_lt s (by decide))]
  exact congrArg (· / 2 ^ (s % 8)) hmoved

theorem value_shiftLeft_of_lt (h : s < x.wordWidth) :
    (x.shiftLeft s).value = x.value * 2 ^ s % 256 ^ x.length := by
  have hbytes := div_eight_le_length h
  have hlen : (x.bytes.drop (s / 8) ++ List.replicate (s / 8) 0).length = x.length := by
    rw [List.length_append, List.length_drop, List.length_replicate]
    exact Nat.sub_add_cancel hbytes
  rw [shiftLeft, if_neg (Nat.not_le_of_lt h), value,
    Byte.valueHigh_joinLeft (Nat.mod_lt s (by decide)), hlen, Byte.valueHigh_moveLeft hbytes]
  show x.value * 256 ^ (s / 8) % 256 ^ x.length * 2 ^ (s % 8) % 256 ^ x.length = _
  rw [Nat.mod_mul_mod, Nat.mul_assoc, ← two_pow_eq]

/-- What is divided by more than the string can hold is gone. -/
theorem div_two_pow_of_le (h : 8 * x.length ≤ s) : x.value / 2 ^ s = 0 := by
  have hlt := x.value_lt_two_pow
  exact Nat.div_eq_of_lt (hlt.trans_le (Nat.pow_le_pow_right (by decide) h))

theorem mul_two_pow_mod_of_le (h : 8 * x.length ≤ s) : x.value * 2 ^ s % 256 ^ x.length = 0 := by
  rw [pow_256]
  exact Nat.mod_eq_zero_of_dvd (Dvd.dvd.mul_left (Nat.pow_dvd_pow 2 h) x.value)

theorem value_shiftRight (h : 8 * x.length < 2 ^ 64) (s : Nat) :
    (x.shiftRight s).value = x.value / 2 ^ s := by
  by_cases hs : s < x.wordWidth
  · exact value_shiftRight_of_lt hs
  · have hle : x.wordWidth ≤ s := Nat.le_of_not_lt hs
    rw [shiftRight_of_le hle, value_zeros, div_two_pow_of_le (wordWidth_eq h ▸ hle)]

theorem value_shiftLeft (h : 8 * x.length < 2 ^ 64) (s : Nat) :
    (x.shiftLeft s).value = x.value * 2 ^ s % 256 ^ x.length := by
  by_cases hs : s < x.wordWidth
  · exact value_shiftLeft_of_lt hs
  · have hle : x.wordWidth ≤ s := Nat.le_of_not_lt hs
    rw [shiftLeft_of_le hle, value_zeros, mul_two_pow_mod_of_le (wordWidth_eq h ▸ hle)]

end

/-- No string is as wide as an amount that no machine word holds. -/
theorem wordWidth_le_of_two_pow_le (x : Octets) {s : Nat} (h : 2 ^ 64 ≤ s) : x.wordWidth ≤ s :=
  (Nat.min_le_right _ _).trans ((Nat.sub_le _ 1).trans h)

/-- An amount given as an octet string shifts like its integer, at any size. -/
theorem shiftRightBy_eq (x t : Octets) : x.shiftRightBy t = x.shiftRight t.value := by
  rcases t.toUInt64?_cases with ⟨word, hword, hvalue⟩ | ⟨hnone, hle⟩
  · simp only [shiftRightBy, hword, hvalue]
  · rw [shiftRightBy, hnone]
    exact (shiftRight_of_le (x.wordWidth_le_of_two_pow_le hle)).symm

theorem shiftLeftBy_eq (x t : Octets) : x.shiftLeftBy t = x.shiftLeft t.value := by
  rcases t.toUInt64?_cases with ⟨word, hword, hvalue⟩ | ⟨hnone, hle⟩
  · simp only [shiftLeftBy, hword, hvalue]
  · rw [shiftLeftBy, hnone]
    exact (shiftLeft_of_le (x.wordWidth_le_of_two_pow_le hle)).symm

/-- **Shifts divide and multiply by powers of two**, at the length of the string: to the right the
    quotient, to the left the product modulo `256 ^ x.length`, by any number of places and by any
    integer as the amount. -/
theorem shifts_divide_multiply {x : Octets} (h : 8 * x.length < 2 ^ 64) :
    (∀ s : Nat,
      (x.shiftRight s).length = x.length ∧ (x.shiftRight s).value = x.value / 2 ^ s ∧
      (x.shiftLeft s).length = x.length ∧
      (x.shiftLeft s).value = x.value * 2 ^ s % 256 ^ x.length) ∧
    ∀ t : Octets,
      (x.shiftRightBy t).length = x.length ∧ (x.shiftRightBy t).value = x.value / 2 ^ t.value ∧
      (x.shiftLeftBy t).length = x.length ∧
      (x.shiftLeftBy t).value = x.value * 2 ^ t.value % 256 ^ x.length := by
  refine ⟨fun s => ?_, fun t => ?_⟩
  · exact ⟨length_shiftRight x s, value_shiftRight h s, length_shiftLeft x s, value_shiftLeft h s⟩
  · rw [shiftRightBy_eq, shiftLeftBy_eq]
    exact ⟨length_shiftRight x _, value_shiftRight h _, length_shiftLeft x _, value_shiftLeft h _⟩

/-- Nine places, also with nine bytes for the amount: the bytes `81 42` become `00 40` and `84 00`. -/
theorem shifts_divide_multiply_nine_places :
    8 * (⟨[0x81, 0x42]⟩ : Octets).length < 2 ^ 64 ∧
    ((⟨[0x81, 0x42]⟩ : Octets).shiftRight 9).value = 0x40 ∧
    ((⟨[0x81, 0x42]⟩ : Octets).shiftLeftBy ⟨[0, 0, 0, 0, 0, 0, 0, 0, 9]⟩).value = 0x8400 := by
  have hfit : 8 * (⟨[0x81, 0x42]⟩ : Octets).length < 2 ^ 64 := by decide
  obtain ⟨hplaces, hamounts⟩ := shifts_divide_multiply hfit
  obtain ⟨_, hright, _, _⟩ := hplaces 9
  obtain ⟨_, _, _, hleft⟩ := hamounts ⟨[0, 0, 0, 0, 0, 0, 0, 0, 9]⟩
  exact ⟨hfit, hright.trans (by decide), hleft.trans (by decide)⟩

/-! ## 3. Mirror images -/

section

variable {x : Octets} {s : Nat}

theorem testBit_shiftRight (h : s < x.wordWidth) (i : Nat) :
    (x.shiftRight s).value.testBit i = x.value.testBit (i + s) := by
  rw [value_shiftRight_of_lt h, Nat.testBit_div_two_pow]

theorem testBit_shiftLeft (h : s < x.wordWidth) {i : Nat} (hi : i < 8 * x.length) :
    (x.shiftLeft s).value.testBit i = (decide (s ≤ i) && x.value.testBit (i - s)) := by
  rw [value_shiftLeft_of_lt h, testBit_mod_pow hi, Nat.testBit_mul_two_pow]

end

@[simp] theorem wordWidth_reverseBitstring (x : Octets) :
    x.reverseBitstring.wordWidth = x.wordWidth := by
  simp [wordWidth]

@[simp] theorem reverseBitstring_zeros (n : Nat) : (zeros n).reverseBitstring = zeros n := by
  have hzero : Byte.reverseBits 0 = 0 := rfl
  simp [reverseBitstring, reverseBytes, reverseBits, zeros, hzero]

/-- Turned round, a shift to the left is one to the right. -/
theorem reverseBitstring_shiftLeft (x : Octets) (s : Nat) :
    (x.shiftLeft s).reverseBitstring = x.reverseBitstring.shiftRight s := by
  by_cases hs : s < x.wordWidth
  · refine eq_of_testBit (by simp) fun p hp => ?_
    rw [length_reverseBitstring, length_shiftLeft] at hp
    rw [testBit_reverseBitstring_eq _ (by simpa using hp), length_shiftLeft,
      testBit_shiftLeft hs (by omega), testBit_shiftRight (by simpa using hs)]
    -- the bit that arrives at `p` was `s` places further from the end, unless that is outside
    by_cases hin : p + s < 8 * x.length
    · rw [testBit_reverseBitstring_eq _ hin, decide_eq_true (show s ≤ 8 * x.length - 1 - p by omega),
        Bool.true_and, show 8 * x.length - 1 - p - s = 8 * x.length - 1 - (p + s) by omega]
    · rw [decide_eq_false (show ¬ s ≤ 8 * x.length - 1 - p by omega), Bool.false_and]
      exact (testBit_value_of_le _ (by simpa using hin)).symm
  · have hle : x.wordWidth ≤ s := Nat.le_of_not_lt hs
    rw [shiftLeft_of_le hle, reverseBitstring_zeros, shiftRight_of_le (by simpa using hle),
      length_reverseBitstring]

/-- **The shifts are mirror images**: turning the whole string of bits round exchanges them, byte
    for byte and by any amount. -/
theorem reverseBitstring_exchanges_shifts (x : Octets) (s : Nat) :
    (x.shiftLeft s).reverseBitstring = x.reverseBitstring.shiftRight s ∧
    (x.shiftRight s).reverseBitstring = x.reverseBitstring.shiftLeft s := by
  refine ⟨reverseBitstring_shiftLeft x s, ?_⟩
  have hmirror := reverseBitstring_shiftLeft x.reverseBitstring s
  rw [reverseBitstring_reverseBitstring] at hmirror
  rw [← hmirror, reverseBitstring_reverseBitstring]

end Octets

end Tribase
