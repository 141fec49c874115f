import Tribase.Proofs.Octets.Arithmetic

/-!
# Laws of sums and differences

Sums and differences byte for byte: not only the integer but also the length is determined, so the
laws hold as equations of octet strings, leading zeros included.

* `exists_addLow`: the carry chain leaves a byte for each pair, and the last carry;
* **`length_add`**: a sum is as long as its operands, or as the integer needs;
* **`add_exact`**: the sum, and why addition makes a commutative monoid;
* `eq_of_modEq`: octet strings of one length are determined by their residue;
* **`subtract_modular`**: negative and difference, and the laws between them and the sum;
* `xor_add_two_mul_and`: adding is adding without carries, and then the carries;
* **`bitwise_on_integers`**: the bitwise operations bit by bit, and the sum made from them.
-/

namespace Tribase

/-! ## 1. Lengths of sums -/

namespace Octets

theorem addLow_cons (x y : UInt8) (xs ys : List UInt8) (carry : UInt8) :
    addLow (x :: xs) (y :: ys) carry =
      (Byte.addCarry x y carry).1 :: addLow xs ys (Byte.addCarry x y carry).2 := rfl

/-- **What the carry chain leaves**: one byte for each pair, and the last carry unless it is zero. -/
theorem exists_addLow {xs ys : List UInt8} (h : xs.length = ys.length) (carry : UInt8) :
    ∃ low last, low.length = xs.length ∧
      addLow xs ys carry = low ++ if last = 0 then [] else [last] := by
  induction xs generalizing ys carry with
  | nil =>
    obtain rfl : ys = [] := List.eq_nil_of_length_eq_zero h.symm
    exact ⟨[], carry, rfl, rfl⟩
  | cons x xs ih =>
    cases ys with
    | nil => cases h
    | cons y ys =>
      obtain ⟨low, last, hlen, hrest⟩ := ih (Nat.succ.inj h) (Byte.addCarry x y carry).2
      refine ⟨(Byte.addCarry x y carry).1 :: low, last, congrArg (· + 1) hlen, ?_⟩
      rw [addLow_cons, hrest, List.cons_append]

/-- The bytes of a sum: as many as the longer operand has, or one more in front of them. -/
theorem exists_bytes_add (a b : Octets) :
    ∃ low : List UInt8, low.length = max a.length b.length ∧
      ((a.add b).bytes = low ∨ ∃ last, last ≠ 0 ∧ (a.add b).bytes = last :: low) := by
  have hmax : (a.align b).1.bytes.reverse.length = max a.length b.length :=
    List.length_reverse.trans (length_zeroExtend a b.length)
  obtain ⟨low, last, hlow, hsum⟩ := exists_addLow (length_reverse_align a b) 0
  refine ⟨low.reverse, List.length_reverse.trans (hlow.trans hmax), ?_⟩
  rw [add, hsum, List.reverse_append]
  by_cases hlast : last = 0
  · rw [if_pos hlast]
    exact .inl rfl
  · rw [if_neg hlast]
    exact .inr ⟨last, hlast, rfl⟩

/-- Two operands carry at most one. -/
theorem add_lt_two_mul (a b : Octets) :
    a.value + b.value < 2 * 256 ^ max a.length b.length := by
  have ha : a.value < 256 ^ max a.length b.length := value_lt_pow (Nat.le_max_left _ _)
  have hb : b.value < 256 ^ max a.length b.length := value_lt_pow (Nat.le_max_right _ _)
  omega

/-- **A sum grows where it has to**: not at all, or by one byte, which is then one. -/
theorem add_growth (a b : Octets) :
    a.value + b.value < 256 ^ max a.length b.length ∧
        (a.add b).length = max a.length b.length ∨
      256 ^ max a.length b.length ≤ a.value + b.value ∧
        (a.add b).length = max a.length b.length + 1 ∧ (a.add b).bytes.head? = some 1 := by
  have hvalue := value_add a b
  have hcarry := add_lt_two_mul a b
  obtain ⟨low, hlow, hsame | ⟨last, hlast, hmore⟩⟩ := exists_bytes_add a b
  · have hlen : (a.add b).length = max a.length b.length := (congrArg List.length hsame).trans hlow
    refine .inl ⟨?_, hlen⟩
    rw [← hvalue, ← hlen]
    exact value_lt (a.add b)
  · -- the byte in front counts `256 ^ max a.length b.length` each, so it can only be one
    have hlen : (a.add b).length = max a.length b.length + 1 := by
      rw [← hlow]
      exact congrArg List.length hmore
    have hsplit : (a.add b).value =
        last.toNat * 256 ^ max a.length b.length + Byte.valueHigh low := by
      rw [← hlow, ← Byte.valueHigh_cons]
      exact congrArg Byte.valueHigh hmore
    have hpos : 1 ≤ last.toNat := Nat.pos_of_ne_zero fun h => hlast (UInt8.toNat_inj.mp h)
    have hlt : last.toNat < 2 := by
      refine Nat.lt_of_mul_lt_mul_right (a := 256 ^ max a.length b.length) ?_
      omega
    have hone : last = 1 := UInt8.toNat_inj.mp (Nat.le_antisymm (Nat.le_of_lt_succ hlt) hpos)
    have hle : 256 ^ max a.length b.length ≤ last.toNat * 256 ^ max a.length b.length :=
      Nat.le_mul_of_pos_left _ hpos
    refine .inr ⟨by omega, hlen, ?_⟩
    rw [hmore, hone, List.head?_cons]

/-- **The length of a sum** is that of the longer operand, or what the integer needs. -/
theorem length_add (a b : Octets) :
    (a.add b).length = max (max a.length b.length) (byteLength (a.value + b.value)) := by
  rcases add_growth a b with ⟨hfit, hlen⟩ | ⟨hle, hlen, _⟩
  · rw [hlen, Nat.max_eq_left (byteLength_le_iff.mpr hfit)]
  · have hvalue := value_lt (a.add b)
    rw [value_add, hlen] at hvalue
    have hupper := byteLength_le_iff.mpr hvalue
    have hlower : ¬ byteLength (a.value + b.value) ≤ max a.length b.length := fun h =>
      Nat.not_lt_of_le hle (byteLength_le_iff.mp h)
    omega

/-! ## 2. A commutative monoid -/

end Octets

/-- More takes no fewer bytes. -/
theorem byteLength_mono {m n : Nat} (h : m ≤ n) : byteLength m ≤ byteLength n :=
  byteLength_le_iff.mpr (h.trans_lt (lt_pow_byteLength n))

namespace Octets

protected theorem add_comm (a b : Octets) : a.add b = b.add a := by
  refine eq_of_value_eq ?_ ?_
  · rw [length_add, length_add, Nat.max_comm a.length, Nat.add_comm a.value]
  · rw [value_add, value_add, Nat.add_comm]

/-- The grouping does not show: what the inner sum needs, the outer one needs anyway. -/
protected theorem add_assoc (a b c : Octets) : (a.add b).add c = a.add (b.add c) := by
  refine eq_of_value_eq ?_ ?_
  · have hleft : byteLength (a.value + b.value) ≤ byteLength (a.value + b.value + c.value) :=
      byteLength_mono (Nat.le_add_right _ _)
    have hright : byteLength (b.value + c.value) ≤ byteLength (a.value + b.value + c.value) :=
      byteLength_mono (by omega)
    rw [length_add, length_add, length_add, length_add, value_add, value_add, ← Nat.add_assoc]
    omega
  · rw [value_add, value_add, value_add, value_add, Nat.add_assoc]

protected theorem add_empty (a : Octets) : a.add empty = a := by
  have hzero : empty.value = 0 := rfl
  have hnone : empty.length = 0 := rfl
  refine eq_of_value_eq ?_ ?_
  · have hneed : byteLength a.value ≤ a.length := byteLength_le_iff.mpr (value_lt a)
    rw [length_add, hzero, hnone, Nat.add_zero]
    omega
  · rw [value_add, hzero, Nat.add_zero]

/-- **Addition is exact**: the integers are added, the sum has the bytes of the longer operand or
    one more where the integer needs it, which is then one; and byte for byte, leading zeros
    included, neither order nor grouping shows and nothing is added by no bytes. -/
theorem add_exact (a b : Octets) :
    (a.add b).value = a.value + b.value ∧
    (a.add b).length = max (max a.length b.length) (byteLength (a.value + b.value)) ∧
    ((a.add b).length = max a.length b.length ∨
      (a.add b).length = max a.length b.length + 1 ∧ (a.add b).bytes.head? = some 1) ∧
    a.add b = b.add a ∧ (∀ c, (a.add b).add c = a.add (b.add c)) ∧ a.add empty = a := by
  refine ⟨value_add a b, length_add a b, ?_, a.add_comm b, a.add_assoc b, a.add_empty⟩
  rcases add_growth a b with ⟨_, hlen⟩ | ⟨_, hgrown⟩
  · exact .inl hlen
  · exact .inr hgrown

/-! ## 3. Negatives and differences -/

@[simp] theorem length_negate (x : Octets) : x.negate.length = x.length := by
  unfold negate
  split
  · rfl
  · rw [length_truncate, length_add, length_complement]
    omega

@[simp] theorem length_subtract (a b : Octets) :
    (a.subtract b).length = max a.length b.length := by
  show ((a.zeroExtend b.length).add (b.zeroExtend a.length).negate |>.truncate
    (a.zeroExtend b.length).length).length = _
  rw [length_truncate, length_add, length_zeroExtend]
  omega

/-- The value is the least residue at the length. -/
theorem value_eq_emod {x : Octets} {z : ℤ} (h : (x.value : ℤ) ≡ z [ZMOD 256 ^ x.length]) :
    (x.value : ℤ) = z % 256 ^ x.length := by
  have hlt : (x.value : ℤ) < 256 ^ x.length := by exact_mod_cast value_lt x
  rw [← Int.emod_eq_of_lt (Int.natCast_nonneg x.value) hlt]
  exact h

/-- **Octet strings of one length are determined by their residue.** -/
theorem eq_of_modEq {a b : Octets} (hlen : a.length = b.length)
    (h : (a.value : ℤ) ≡ b.value [ZMOD 256 ^ a.length]) : a = b := by
  have ha := value_eq_emod h
  have hb := value_eq_emod (Int.ModEq.refl (n := 256 ^ b.length) (b.value : ℤ))
  rw [← hlen, ← ha] at hb
  exact eq_of_value_eq hlen (Int.natCast_inj.mp hb.symm)

theorem negate_negate (x : Octets) : x.negate.negate = x := by
  have houter := negate_modEq x.negate
  rw [length_negate] at houter
  refine eq_of_modEq (by simp) ?_
  rw [length_negate, length_negate]
  calc (x.negate.negate.value : ℤ)
      ≡ -x.negate.value [ZMOD 256 ^ x.length] := houter
    _ ≡ - -x.value [ZMOD 256 ^ x.length] := (negate_modEq x).neg
    _ = x.value := neg_neg _

/-- Exchanging the operands negates the difference. -/
theorem negate_subtract (a b : Octets) : (b.subtract a).negate = a.subtract b := by
  have hnegate := negate_modEq (b.subtract a)
  rw [length_subtract, Nat.max_comm] at hnegate
  have hexchanged := subtract_modEq b a
  rw [Nat.max_comm] at hexchanged
  refine eq_of_modEq (by simp [Nat.max_comm]) ?_
  rw [length_negate, length_subtract, Nat.max_comm]
  calc ((b.subtract a).negate.value : ℤ)
      ≡ -(b.subtract a).value [ZMOD 256 ^ max a.length b.length] := hnegate
    _ ≡ -(b.value - a.value) [ZMOD 256 ^ max a.length b.length] := hexchanged.neg
    _ = a.value - b.value := neg_sub _ _
    _ ≡ (a.subtract b).value [ZMOD 256 ^ max a.length b.length] := (subtract_modEq a b).symm

/-- Taking away what was added leaves the operand, at the length of the sum. -/
theorem add_subtract (a b : Octets) :
    (a.add b).subtract b = a.zeroExtend (a.add b).length := by
  have hb : max (a.add b).length b.length = (a.add b).length := by
    rw [length_add]
    omega
  have ha : max a.length (a.add b).length = (a.add b).length := by
    rw [length_add]
    omega
  have hdiff := subtract_modEq (a.add b) b
  rw [hb] at hdiff
  refine eq_of_modEq (by rw [length_subtract, length_zeroExtend, hb, ha]) ?_
  rw [length_subtract, hb, value_zeroExtend]
  calc (((a.add b).subtract b).value : ℤ)
      ≡ (a.add b).value - b.value [ZMOD 256 ^ (a.add b).length] := hdiff
    _ = a.value := by
      rw [value_add]
      push_cast
      ring

/-- **Subtraction and negation are modular** at the longer length and at the operand's own, exactly:
    so negating twice gives the operand back byte for byte, exchanging the operands negates, and
    taking away what was added leaves the operand at the length of the sum. -/
theorem subtract_modular (a b : Octets) :
    (a.subtract b).length = max a.length b.length ∧
    ((a.subtract b).value : ℤ) = (a.value - b.value) % 256 ^ max a.length b.length ∧
    a.negate.length = a.length ∧ (a.negate.value : ℤ) = -a.value % 256 ^ a.length ∧
    a.negate.negate = a ∧ a.subtract b = (b.subtract a).negate ∧
    (a.add b).subtract b = a.zeroExtend (a.add b).length := by
  have hsub : ((a.subtract b).value : ℤ) = (a.value - b.value) % 256 ^ (a.subtract b).length :=
    value_eq_emod (by rw [length_subtract]; exact subtract_modEq a b)
  have hneg : (a.negate.value : ℤ) = -a.value % 256 ^ a.negate.length :=
    value_eq_emod (by rw [length_negate]; exact negate_modEq a)
  rw [length_subtract] at hsub
  rw [length_negate] at hneg
  exact ⟨length_subtract a b, hsub, length_negate a, hneg, a.negate_negate,
    (negate_subtract a b).symm, add_subtract a b⟩

/-! ## 4. Sums from bitwise operations -/

end Octets

/-- **Where two one bits meet, a carry goes one place up**; everywhere else exclusive or adds. -/
theorem xor_add_two_mul_and (m n : Nat) : (m ^^^ n) + 2 * (m &&& n) = m + n := by
  induction m using Nat.binaryRec generalizing n with
  | zero => simp
  | bit b m ih =>
    cases n using Nat.bitCasesOn with
    | bit c n =>
      have hrest := ih n
      rw [Nat.xor_bit, Nat.land_bit]
      simp only [Nat.bit_val]
      cases b <;> cases c <;> simp <;> omega

namespace Octets

theorem testBit_bitwise (op : BitOp) (a b : Octets) (i : Nat) :
    (bitwise op a b).value.testBit i = op.onBool (a.value.testBit i) (b.value.testBit i) := by
  rw [value_bitwise, BitOp.testBit_onNat]

/-- The carry chain gives the same bytes as adding without carries and then the carries twice. -/
theorem xor_add_and_add_and (a b : Octets) :
    ((bitwise .xor a b).add (bitwise .and a b)).add (bitwise .and a b) = a.add b := by
  have hxor : (bitwise .xor a b).value = a.value ^^^ b.value := value_bitwise .xor a b
  have hand : (bitwise .and a b).value = a.value &&& b.value := value_bitwise .and a b
  have hsum := xor_add_two_mul_and a.value b.value
  have htotal : (a.value ^^^ b.value) + (a.value &&& b.value) + (a.value &&& b.value) =
      a.value + b.value := by omega
  refine eq_of_value_eq ?_ ?_
  · have hpart : byteLength ((a.value ^^^ b.value) + (a.value &&& b.value)) ≤
        byteLength (a.value + b.value) := byteLength_mono (by omega)
    rw [length_add, length_add, length_add, value_add, length_bitwise, length_bitwise, hxor, hand,
      htotal]
    omega
  · rw [value_add, value_add, value_add, hxor, hand, htotal]

/-- **The bitwise operations act on the integers**: each bit of the result, at any place, comes from
    the two bits there, at the length of the longer operand; the complement is what is missing to
    the greatest integer of the length; and the sum is that of exclusive or and twice the common
    bits. -/
theorem bitwise_on_integers (a b : Octets) :
    (∀ op : BitOp, (bitwise op a b).length = max a.length b.length ∧
      ∀ i, (bitwise op a b).value.testBit i =
        op.onBool (a.value.testBit i) (b.value.testBit i)) ∧
    a.complement.length = a.length ∧
    (a.complement.value : ℤ) = 256 ^ a.length - 1 - a.value ∧
    (a.add b).equivalent
      (((bitwise .xor a b).add (bitwise .and a b)).add (bitwise .and a b)) = true := by
  refine ⟨fun op => ⟨length_bitwise op a b, testBit_bitwise op a b⟩, length_complement a, ?_, ?_⟩
  · have hlt : a.value + 1 ≤ 256 ^ a.length := value_lt a
    rw [value_complement, Nat.cast_sub hlt]
    push_cast
    ring
  · rw [equivalent_iff, xor_add_and_add_and]

end Octets

end Tribase
