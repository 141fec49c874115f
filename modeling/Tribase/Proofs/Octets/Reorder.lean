import Tribase.Proofs.Octets.Count

/-!
# Bits of octet strings, and their reorderings

Bit `8 * k + j` of the integer is bit `j` of the `k`th byte from the end. So a reordering of the
string moves the bits of its integer, each to a place that depends on the length only.

* `testBit_value`: where the bits of the integer stand in the string;
* **`eq_of_testBit`**: octet strings of one length are determined by their bits;
* `testBit_reverseBytes`, `testBit_reverseBits`, `testBit_swapNibbles`, `testBit_reverseBitstring`:
  where each bit goes;
* `moveBits place n` is the integer with the one bits of `n`, each moved from `p` to `place p`;
* `bitIndices_perm_map`, `eq_moveBits`: a number of the same width whose bits are those of `n`, moved,
  has its one bits at the moved places, and so it is that integer;
* `Reordering`, with `apply` and `place`: the four reorderings, and where each of them takes a bit;
* **`apply_apply`**, `onesCount_apply`, `value_apply`: moved twice, a bit is where it was, and none is
  lost; so a reordering undoes itself and keeps the one bits;
* `value_reverseBytes` and the like: the integer of each reordering;
* **`reorderings_move_bits`**: where every bit goes, and what follows from it.
-/

namespace Tribase

/-! ## 1. Bits -/

theorem Byte.testBit_valueLow (bytes : List UInt8) (k : Nat) {j : Nat} (hj : j < 8) :
    (valueLow bytes).testBit (8 * k + j) = (bytes[k]?.getD 0).toNat.testBit j := by
  induction bytes generalizing k with
  | nil => simp [valueLow]
  | cons b bs ih =>
    have hb : b.toNat < 2 ^ 8 := b.toNat_lt
    have hsplit : valueLow (b :: bs) = 2 ^ 8 * valueLow bs + b.toNat := Nat.add_comm ..
    rw [hsplit, Nat.testBit_two_pow_mul_add _ hb]
    cases k with
    | zero =>
      rw [if_pos (by omega), Nat.mul_zero, Nat.zero_add]
      rfl
    | succ k =>
      rw [if_neg (by omega), show 8 * (k + 1) + j - 8 = 8 * k + j by omega, ih k]
      rfl

/-- Where a change of a byte takes its bits is seen byte by byte. -/
theorem Byte.testBit_of_forall (f : UInt8 → UInt8) (place : Nat → Nat)
    (hall : ∀ n < 256, ∀ j < 8, (f (UInt8.ofNat n)).toNat.testBit (place j) = n.testBit j)
    (b : UInt8) {j : Nat} (hj : j < 8) : (f b).toNat.testBit (place j) = b.toNat.testBit j := by
  have h := hall b.toNat b.toNat_lt j hj
  rwa [UInt8.ofNat_toNat] at h

/-- The halves of a byte change places. -/
theorem Byte.testBit_swapNibbles (b : UInt8) {j : Nat} (hj : j < 8) :
    (swapNibbles b).toNat.testBit ((j + 4) % 8) = b.toNat.testBit j :=
  testBit_of_forall swapNibbles (fun j => (j + 4) % 8) (by decide +kernel) b hj

/-- The network of exchanges turns the byte round. -/
theorem Byte.testBit_reverseBits (b : UInt8) {j : Nat} (hj : j < 8) :
    (reverseBits b).toNat.testBit (7 - j) = b.toNat.testBit j :=
  testBit_of_forall reverseBits (fun j => 7 - j) (by decide +kernel) b hj

namespace Octets

variable (x : Octets) {k j : Nat}

/-- **The bits of the integer**, byte by byte from the end. -/
theorem testBit_value (k : Nat) (hj : j < 8) :
    x.value.testBit (8 * k + j) = (x.bytes.reverse[k]?.getD 0).toNat.testBit j := by
  have hval : x.value = Byte.valueLow x.bytes.reverse := by
    rw [← Byte.valueHigh_reverse, List.reverse_reverse]
    rfl
  rw [hval, Byte.testBit_valueLow _ k hj]

theorem testBit_value_of_le {i : Nat} (hi : 8 * x.length ≤ i) : x.value.testBit i = false :=
  testBit_above x.value_lt_two_pow hi

/-- **Octet strings of one length are determined by their bits.** -/
theorem eq_of_testBit {a b : Octets} (hlen : a.length = b.length)
    (h : ∀ i < 8 * a.length, a.value.testBit i = b.value.testBit i) : a = b := by
  have ha := value_lt a
  have hb := value_lt b
  have hmod := mod_eq_of_testBit h
  rw [← hlen] at hb
  rw [Nat.mod_eq_of_lt ha, Nat.mod_eq_of_lt hb] at hmod
  exact eq_of_value_eq hlen hmod

/-! ## 2. Where the bits go -/

theorem testBit_reverseBytes (hk : k < x.length) (hj : j < 8) :
    x.reverseBytes.value.testBit (8 * (x.length - 1 - k) + j) = x.value.testBit (8 * k + j) := by
  have hplace : x.bytes.reverse[k]? = x.bytes[x.length - 1 - k]? := List.getElem?_reverse hk
  rw [testBit_value _ _ hj, testBit_value _ _ hj, hplace, reverseBytes, List.reverse_reverse]

/-- A change of each byte for itself moves bits within their byte. -/
theorem testBit_map {f : UInt8 → UInt8} {j' : Nat} (hj : j < 8) (hj' : j' < 8)
    (hf : ∀ b, (f b).toNat.testBit j' = b.toNat.testBit j) (k : Nat) :
    (Octets.mk (x.bytes.map f)).value.testBit (8 * k + j') = x.value.testBit (8 * k + j) := by
  rw [testBit_value _ _ hj, testBit_value _ _ hj', ← List.map_reverse, List.getElem?_map]
  cases x.bytes.reverse[k]? with
  | none => simp
  | some b => exact hf b

theorem testBit_reverseBits (k : Nat) (hj : j < 8) :
    x.reverseBits.value.testBit (8 * k + (7 - j)) = x.value.testBit (8 * k + j) :=
  x.testBit_map hj (by omega) (fun b => Byte.testBit_reverseBits b hj) k

theorem testBit_swapNibbles (k : Nat) (hj : j < 8) :
    x.swapNibbles.value.testBit (8 * k + (j + 4) % 8) = x.value.testBit (8 * k + j) :=
  x.testBit_map hj (Nat.mod_lt _ (by decide)) (fun b => Byte.testBit_swapNibbles b hj) k

theorem testBit_reverseBitstring {p : Nat} (hp : p < 8 * x.length) :
    x.reverseBitstring.value.testBit (8 * x.length - 1 - p) = x.value.testBit p := by
  -- the bits are turned within their bytes first, and the bytes then
  have hk : p / 8 < x.reverseBits.length := by
    rw [length_reverseBits]
    omega
  have hbytes := x.reverseBits.testBit_reverseBytes hk (show 7 - p % 8 < 8 by omega)
  rw [length_reverseBits, x.testBit_reverseBits (p / 8) (Nat.mod_lt p (by decide))] at hbytes
  rw [show 8 * x.length - 1 - p = 8 * (x.length - 1 - p / 8) + (7 - p % 8) by omega]
  exact hbytes.trans (congrArg x.value.testBit (Nat.div_add_mod p 8))

/-- Where a bit comes from. -/
theorem testBit_reverseBitstring_eq {p : Nat} (hp : p < 8 * x.length) :
    x.reverseBitstring.value.testBit p = x.value.testBit (8 * x.length - 1 - p) := by
  have hback := x.testBit_reverseBitstring (show 8 * x.length - 1 - p < 8 * x.length by omega)
  rwa [show 8 * x.length - 1 - (8 * x.length - 1 - p) = p by omega] at hback

end Octets

/-! ## 3. Moved bits -/

/-- The integer with the one bits of `n`, each moved from its place `p` to `place p`. -/
def moveBits (place : Nat → Nat) (n : Nat) : Nat :=
  (n.bitIndices.map fun p => 2 ^ place p).sum

/-- **The bits of `n`, moved within the same width**, stand at the moved places. -/
theorem bitIndices_perm_map {width m n : Nat} {place : Nat → Nat}
    (hlt : ∀ p < width, place p < width) (hback : ∀ p < width, place (place p) = p)
    (hm : m < 2 ^ width) (hn : n < 2 ^ width)
    (hbit : ∀ p < width, m.testBit (place p) = n.testBit p) :
    m.bitIndices.Perm (n.bitIndices.map place) := by
  have hwidth : ∀ p ∈ n.bitIndices, p < width := fun p hp =>
    lt_of_testBit hn (Nat.mem_bitIndices.mp hp)
  have hnodup : (n.bitIndices.map place).Nodup := by
    refine Nat.bitIndices_nodup.map_on fun p hp q hq h => ?_
    rw [← hback p (hwidth p hp), h, hback q (hwidth q hq)]
  refine bitIndices_perm hnodup fun i => ?_
  rw [List.mem_map]
  constructor
  · rintro ⟨p, hp, rfl⟩
    rw [hbit p (hwidth p hp)]
    exact Nat.mem_bitIndices.mp hp
  · -- moved back once more, a place of `m` is one of `n`
    intro hi
    have hiwidth := lt_of_testBit hm hi
    refine ⟨place i, Nat.mem_bitIndices.mpr ?_, hback i hiwidth⟩
    rw [← hbit _ (hlt i hiwidth), hback i hiwidth]
    exact hi

theorem eq_moveBits {m n : Nat} {place : Nat → Nat}
    (h : m.bitIndices.Perm (n.bitIndices.map place)) : m = moveBits place n := by
  calc m = (m.bitIndices.map (2 ^ ·)).sum := (Nat.sum_map_two_pow_bitIndices m).symm
    _ = ((n.bitIndices.map place).map (2 ^ ·)).sum := (h.map _).sum_eq
    _ = moveBits place n := by
      rw [List.map_map]
      rfl

/-! ## 4. Reorderings -/

/-- What is turned round, or exchanged. -/
inductive Reordering where
  /-- The whole string of bits. -/
  | bitstring
  /-- The bits of each byte. -/
  | bits
  /-- The bytes. -/
  | bytes
  /-- The halves of each byte. -/
  | nibbles
deriving DecidableEq, Repr

namespace Reordering

/-- The reordered string. -/
def apply : Reordering → Octets → Octets
  | bitstring, x => x.reverseBitstring
  | bits, x => x.reverseBits
  | bytes, x => x.reverseBytes
  | nibbles, x => x.swapNibbles

/-- Where the bit `p` of a string of `length` bytes goes. -/
def place : Reordering → Nat → Nat → Nat
  | bitstring, length, p => 8 * length - 1 - p
  | bits, _, p => 8 * (p / 8) + (7 - p % 8)
  | bytes, length, p => 8 * (length - 1 - p / 8) + p % 8
  | nibbles, _, p => 8 * (p / 8) + (p % 8 + 4) % 8

section

variable (r : Reordering) {length p : Nat}

theorem place_lt (hp : p < 8 * length) : r.place length p < 8 * length := by
  cases r <;> simp only [place] <;> omega

/-- Moved twice, a bit is where it was. -/
theorem place_place (hp : p < 8 * length) : r.place length (r.place length p) = p := by
  cases r <;> simp only [place] <;> omega

end

variable (r : Reordering) (x : Octets)

@[simp] theorem length_apply : (r.apply x).length = x.length := by
  cases r <;> simp [apply]

/-- **Where each bit goes.** -/
theorem testBit_apply {p : Nat} (hp : p < 8 * x.length) :
    (r.apply x).value.testBit (r.place x.length p) = x.value.testBit p := by
  have hj : p % 8 < 8 := Nat.mod_lt p (by decide)
  cases r with
  | bitstring => exact x.testBit_reverseBitstring hp
  | bits =>
    have h := x.testBit_reverseBits (p / 8) hj
    rwa [Nat.div_add_mod] at h
  | bytes =>
    have h := x.testBit_reverseBytes (k := p / 8) (by omega) hj
    rwa [Nat.div_add_mod] at h
  | nibbles =>
    have h := x.testBit_swapNibbles (p / 8) hj
    rwa [Nat.div_add_mod] at h

theorem bitIndices_apply :
    (r.apply x).value.bitIndices.Perm (x.value.bitIndices.map (r.place x.length)) := by
  have hlt := (r.apply x).value_lt_two_pow
  rw [length_apply] at hlt
  exact bitIndices_perm_map (fun _ => r.place_lt) (fun _ => r.place_place) hlt x.value_lt_two_pow
    fun _ => r.testBit_apply x

/-- A reordering of the string moves the bits of its integer. -/
theorem value_apply : (r.apply x).value = moveBits (r.place x.length) x.value :=
  eq_moveBits (r.bitIndices_apply x)

theorem onesCount_apply : (r.apply x).onesCount = x.onesCount := by
  rw [Octets.onesCount_eq, Octets.onesCount_eq, (r.bitIndices_apply x).length_eq, List.length_map]

/-- **A reordering undoes itself.** -/
@[simp] theorem apply_apply : r.apply (r.apply x) = x := by
  refine Octets.eq_of_testBit (by simp) fun p hp => ?_
  rw [length_apply, length_apply] at hp
  have hplace : r.place x.length p < 8 * (r.apply x).length := by
    rw [length_apply]
    exact r.place_lt hp
  have htwice := r.testBit_apply (r.apply x) hplace
  rwa [length_apply, r.place_place hp, r.testBit_apply x hp] at htwice

end Reordering

namespace Octets

variable (x : Octets)

/-- Turned round twice, the string is what it was. -/
@[simp] theorem reverseBitstring_reverseBitstring : x.reverseBitstring.reverseBitstring = x :=
  Reordering.bitstring.apply_apply x

theorem value_reverseBitstring :
    x.reverseBitstring.value = moveBits (fun p => 8 * x.length - 1 - p) x.value :=
  Reordering.bitstring.value_apply x

theorem value_reverseBits :
    x.reverseBits.value = moveBits (fun p => 8 * (p / 8) + (7 - p % 8)) x.value :=
  Reordering.bits.value_apply x

theorem value_reverseBytes :
    x.reverseBytes.value = moveBits (fun p => 8 * (x.length - 1 - p / 8) + p % 8) x.value :=
  Reordering.bytes.value_apply x

theorem value_swapNibbles :
    x.swapNibbles.value = moveBits (fun p => 8 * (p / 8) + (p % 8 + 4) % 8) x.value :=
  Reordering.nibbles.value_apply x

/-- Bytes can be turned round before or after their bits are. -/
theorem reverseBits_reverseBytes : x.reverseBytes.reverseBits = x.reverseBits.reverseBytes := by
  simp [reverseBits, reverseBytes]

/-- **The reorderings move the bits of the integer**, bit `j` of the `k`th byte from the end each to
    its own place, and none beyond the string. So each of them keeps the length and the number of
    one bits and undoes itself, and the whole string of bits is turned round by turning the bits of
    each byte and the bytes, in either order. -/
theorem reorderings_move_bits :
    (∀ k < x.length, ∀ j < 8,
      x.reverseBitstring.value.testBit (8 * x.length - 1 - (8 * k + j)) =
        x.value.testBit (8 * k + j) ∧
      x.reverseBits.value.testBit (8 * k + (7 - j)) = x.value.testBit (8 * k + j) ∧
      x.reverseBytes.value.testBit (8 * (x.length - 1 - k) + j) = x.value.testBit (8 * k + j) ∧
      x.swapNibbles.value.testBit (8 * k + (j + 4) % 8) = x.value.testBit (8 * k + j)) ∧
    (∀ y ∈ [x.reverseBitstring, x.reverseBits, x.reverseBytes, x.swapNibbles],
      (∀ p, 8 * x.length ≤ p → y.value.testBit p = false) ∧
      y.length = x.length ∧ y.onesCount = x.onesCount) ∧
    x.reverseBitstring.reverseBitstring = x ∧ x.reverseBits.reverseBits = x ∧
    x.reverseBytes.reverseBytes = x ∧ x.swapNibbles.swapNibbles = x ∧
    x.reverseBitstring = x.reverseBits.reverseBytes ∧
    x.reverseBitstring = x.reverseBytes.reverseBits := by
  refine ⟨fun k hk j hj => ?_, fun y hy => ?_, Reordering.bitstring.apply_apply x,
    Reordering.bits.apply_apply x, Reordering.bytes.apply_apply x, Reordering.nibbles.apply_apply x,
    rfl, x.reverseBits_reverseBytes.symm⟩
  · exact ⟨x.testBit_reverseBitstring (by omega), x.testBit_reverseBits k hj,
      x.testBit_reverseBytes hk hj, x.testBit_swapNibbles k hj⟩
  · obtain ⟨r, rfl⟩ : ∃ r : Reordering, y = r.apply x := by
      simp only [List.mem_cons, List.not_mem_nil, or_false] at hy
      rcases hy with rfl | rfl | rfl | rfl
      · exact ⟨.bitstring, rfl⟩
      · exact ⟨.bits, rfl⟩
      · exact ⟨.bytes, rfl⟩
      · exact ⟨.nibbles, rfl⟩
    refine ⟨fun p hp => ?_, r.length_apply x, r.onesCount_apply x⟩
    exact testBit_value_of_le _ (by simpa using hp)

/-- The highest bit of the middle byte of `12 80 00`. -/
theorem reorderings_move_bits_middle_byte :
    let x : Octets := ⟨[0x12, 0x80, 0x00]⟩
    1 < x.length ∧ x.value.testBit 15 = true ∧ x.reverseBitstring.value.testBit 8 = true ∧
      x.reverseBits.value.testBit 8 = true ∧ x.reverseBytes.value.testBit 15 = true ∧
      x.swapNibbles.value.testBit 11 = true := by
  intro x
  have hbit : x.value.testBit 15 = true := by decide
  obtain ⟨hmoved, _⟩ := x.reorderings_move_bits
  obtain ⟨hstring, hbits, hbytes, hnibbles⟩ := hmoved 1 (by decide) 7 (by decide)
  exact ⟨by decide, hbit, hstring.trans hbit, hbits.trans hbit, hbytes.trans hbit,
    hnibbles.trans hbit⟩

end Octets

end Tribase
