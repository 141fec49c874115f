import Tribase.Numeral.Read
import Tribase.Proofs.Octets.Value

/-!
# Reading numerals

The reader holds the number read so far as bytes, least significant first, without a zero byte on
top. Each digit keeps that invariant, so a numeral is read as the shortest encoding of its number.

* `valueLow_scaleAdd`, `noTopZero_scaleAdd`: what one digit does;
* `accumulate_eq_ofNat`: what all digits do;
* `readDigits_eq`: separators are left out, and the rest has to be digits;
* `readRadix_eq_readDigits`: past the checks, the characters decide;
* **`readRadix_eq_ok_iff`**: which texts are numerals of a radix, and what they are read as.
-/

namespace Tribase.Octets

/-! ## 1. One digit more -/

/-- No byte, or a highest byte other than zero; the highest byte comes last. -/
def NoTopZero (acc : List UInt8) : Prop :=
  acc.getLast? ≠ some 0

/-- Most significant first, the bytes have no leading zero. -/
theorem NoTopZero.noLeadingZero {acc : List UInt8} (h : NoTopZero acc) :
    NoLeadingZero (acc.reverse.map UInt8.toNat) := by
  rw [Byte.noLeadingZero_map_iff, List.head?_reverse]
  exact h

/-- So there are no more of them than the number needs. -/
theorem NoTopZero.length_le {acc : List UInt8} (h : NoTopZero acc) {n : Nat}
    (hlt : Byte.valueLow acc < 256 ^ n) : acc.length ≤ n := by
  rw [← Byte.valueHigh_reverse, Byte.valueHigh_eq_positional] at hlt
  have hle := length_le_of_positional_lt (by decide) h.noLeadingZero hlt
  rwa [List.length_map, List.length_reverse] at hle

theorem scaleAdd_nil (radix carry : UInt8) :
    scaleAdd radix [] carry = if carry = 0 then [] else [carry] := rfl

theorem scaleAdd_cons (radix x : UInt8) (xs : List UInt8) (carry : UInt8) :
    scaleAdd radix (x :: xs) carry =
      (Byte.mulAdd x radix carry).1 :: scaleAdd radix xs (Byte.mulAdd x radix carry).2 := rfl

/-- A pass multiplies by the radix and adds the carry, whatever the bytes. -/
theorem valueLow_scaleAdd (radix : UInt8) (acc : List UInt8) (carry : UInt8) :
    Byte.valueLow (scaleAdd radix acc carry) =
      Byte.valueLow acc * radix.toNat + carry.toNat := by
  induction acc generalizing carry with
  | nil =>
    rw [scaleAdd_nil]
    split
    · rename_i hz
      simp [hz, Byte.valueLow]
    · simp [Byte.valueLow]
  | cons x xs ih =>
    have hstep := Byte.mulAdd_value x radix carry
    have hdist : (x.toNat + 256 * Byte.valueLow xs) * radix.toNat =
        x.toNat * radix.toNat + 256 * (Byte.valueLow xs * radix.toNat) := by ring
    rw [scaleAdd_cons, Byte.valueLow, ih, Byte.valueLow, hdist]
    omega

theorem noTopZero_scaleAdd {radix : UInt8} (hr : radix ≠ 0) {acc : List UInt8}
    (h : NoTopZero acc) (carry : UInt8) : NoTopZero (scaleAdd radix acc carry) := by
  induction acc generalizing carry with
  | nil =>
    rw [scaleAdd_nil]
    split
    · exact h
    · rename_i hc
      exact fun e => hc (Option.some.inj e)
  | cons x xs ih =>
    have hstep := Byte.mulAdd_value x radix carry
    rw [scaleAdd_cons]
    generalize Byte.mulAdd x radix carry = p at hstep
    obtain ⟨low, high⟩ := p
    cases xs with
    | nil =>
      rw [scaleAdd_nil]
      split
      · rename_i hhigh
        -- the product of two nonzero bytes has landed in the low byte alone
        have hx : x.toNat ≠ 0 := fun e => h (congrArg some (UInt8.toNat_inj.mp e))
        have hr0 : radix.toNat ≠ 0 := fun e => hr (UInt8.toNat_inj.mp e)
        have hpos : 0 < x.toNat * radix.toNat :=
          Nat.mul_pos (Nat.pos_of_ne_zero hx) (Nat.pos_of_ne_zero hr0)
        intro hlow
        have hlow0 : low = 0 := Option.some.inj hlow
        have hzero : (0 : UInt8).toNat = 0 := rfl
        rw [show high = 0 from hhigh, hlow0, hzero] at hstep
        omega
      · rename_i hhigh
        exact fun e => hhigh (Option.some.inj e)
    | cons y ys => exact ih h high

/-! ## 2. All digits -/

/-- The invariant of the reader along all digits, from any bytes that meet it. -/
theorem foldl_scaleAdd {radix : UInt8} (hr : radix ≠ 0) {ds : List Nat} (hds : ∀ d ∈ ds, d < 256)
    {acc : List UInt8} (h : NoTopZero acc) :
    NoTopZero (ds.foldl (fun acc d => scaleAdd radix acc (UInt8.ofNat d)) acc) ∧
      Byte.valueLow (ds.foldl (fun acc d => scaleAdd radix acc (UInt8.ofNat d)) acc) =
        ds.foldl (fun v d => v * radix.toNat + d) (Byte.valueLow acc) := by
  induction ds generalizing acc with
  | nil => exact ⟨h, rfl⟩
  | cons d ds ih =>
    have hd : (UInt8.ofNat d).toNat = d := UInt8.toNat_ofNat_of_lt' (hds d List.mem_cons_self)
    have hnext := noTopZero_scaleAdd hr h (UInt8.ofNat d)
    have hrest := ih (fun e he => hds e (List.mem_cons_of_mem d he)) hnext
    rwa [valueLow_scaleAdd, hd] at hrest

/-- **Digits are read as the shortest encoding of their number.** -/
theorem accumulate_eq_ofNat {radix : UInt8} (hr : radix ≠ 0) {ds : List Nat}
    (hds : ∀ d ∈ ds, d < radix.toNat) :
    Octets.mk (accumulate radix ds).reverse = ofNat (positional radix.toNat ds) := by
  have hbyte : ∀ d ∈ ds, d < 256 := fun d hd => (hds d hd).trans radix.toNat_lt
  have hnil : NoTopZero [] := by simp [NoTopZero]
  obtain ⟨htop, hval⟩ := foldl_scaleAdd hr hbyte hnil
  have hvalue : (Octets.mk (accumulate radix ds).reverse).value = positional radix.toNat ds := by
    rw [value, Byte.valueHigh_reverse]
    exact hval
  rw [← hvalue, ← trim_eq_ofNat]
  exact (trim_eq_self htop.noLeadingZero).symm

/-! ## 3. Separators -/

/-- The characters that are no separators. -/
def withoutSeparators (cs : List Char) : List Char :=
  cs.filter (· ≠ '_')

theorem digitsIn?_cons (radix : Nat) (c : Char) (cs : List Char) :
    digitsIn? radix (c :: cs) =
      (digitIn? radix c).bind fun d => (digitsIn? radix cs).map (d :: ·) := by
  rw [digitsIn?, List.mapM_cons]
  cases digitIn? radix c with
  | none => rfl
  | some d =>
    show (digitsIn? radix cs).bind _ = (digitsIn? radix cs).map _
    cases digitsIn? radix cs <;> rfl

/-- Separators are left out, and every other character has to be a digit. -/
theorem readDigits_eq (radix : Nat) (cs : List Char) :
    readDigits radix cs =
      match digitsIn? radix (withoutSeparators cs) with
      | some ds => .ok ds
      | none => .error .badChar := by
  fun_induction readDigits radix cs with
  | case1 => rfl
  | case2 cs ih => exact ih
  | case3 c cs hc hnone =>
    have hkeep : withoutSeparators (c :: cs) = c :: withoutSeparators cs := by
      simp [withoutSeparators, hc]
    rw [hkeep, digitsIn?_cons, hnone]
    rfl
  | case4 c cs hc d hd ih =>
    have hkeep : withoutSeparators (c :: cs) = c :: withoutSeparators cs := by
      simp [withoutSeparators, hc]
    rw [hkeep, digitsIn?_cons, hd, ih]
    cases digitsIn? radix (withoutSeparators cs) <;> rfl

/-- A text of digits has no separator in it. -/
theorem withoutSeparators_eq_self {radix n : Nat} {cs : List Char}
    (h : numeralValue? radix cs = some n) : withoutSeparators cs = cs := by
  obtain ⟨ds, hds, _⟩ := numeralValue?_eq_some_iff.mp h
  refine List.filter_eq_self.mpr fun c hc => ?_
  have hmem : digitIn? radix c ∈ ds.map some := hds ▸ List.mem_map_of_mem hc
  obtain ⟨d, _, hd⟩ := List.mem_map.mp hmem
  have hne : c ≠ '_' := by
    rintro rfl
    rw [digitIn?_underscore] at hd
    cases hd
  simpa using hne

/-! ## 4. Texts -/

theorem isRadix_iff {radix : Nat} : Estimate.isRadix radix = true ↔ 2 ≤ radix ∧ radix ≤ 36 := by
  simp [Estimate.isRadix]

theorem pos_of_isRadix {radix : Nat} (hr : Estimate.isRadix radix = true) : 0 < radix :=
  Nat.lt_of_lt_of_le (by decide) (isRadix_iff.mp hr).1

/-- Every text that memory can hold has an estimate. -/
theorem bytesBound_isOk {len radix : Nat} (hr : Estimate.isRadix radix = true)
    (hlen : len ≤ Estimate.maxSize) : ∃ n, Estimate.bytesBound len radix = .ok n := by
  have htable : ∀ r < 37, Estimate.log2Table.getD r 0 ≤ 42353 := by decide
  have hentry := htable radix (Nat.lt_succ_of_le (isRadix_iff.mp hr).2)
  have hmul := Nat.mul_le_mul_right (len + 1) hentry
  unfold Estimate.bytesBound Estimate.checkSize
  rw [if_pos hr]
  refine ⟨_, if_pos ?_⟩
  generalize Estimate.log2Table.getD radix 0 * (len + 1) = t at hmul
  simp only [Estimate.maxSize, UInt64.size] at hlen ⊢
  omega

section

variable {text : String} {radix : UInt8}

/-- Past the checks of radix and size, the characters decide. -/
theorem readRadix_eq_readDigits {n : Nat} (hr : Estimate.isRadix radix.toNat = true)
    (hsize : Estimate.bytesBound text.utf8ByteSize radix.toNat = .ok n) (hne : text ≠ "") :
    readRadix text radix =
      match readDigits radix.toNat text.toList with
      | .error e => .error e
      | .ok [] => .error .noDigits
      | .ok ds => .ok ⟨(accumulate radix ds).reverse⟩ := by
  have hfull : text.isEmpty = false := by simpa using hne
  unfold readRadix
  rw [hr, hfull, hsize]
  cases readDigits radix.toNat text.toList with
  | error e => rfl
  | ok ds => cases ds <;> rfl

theorem readRadix_empty (hr : Estimate.isRadix radix.toNat = true) :
    readRadix "" radix = .error .empty := by
  unfold readRadix
  rw [hr]
  rfl

/-- **A text is a numeral of the radix iff, separators left out, it is digits and at least one.** It
    is then read as the shortest encoding of their number. -/
theorem readRadix_eq_ok_iff (hr : Estimate.isRadix radix.toNat = true)
    (hsize : text.utf8ByteSize ≤ Estimate.maxSize) {y : Octets} :
    readRadix text radix = .ok y ↔
      ∃ ds, digitsIn? radix.toNat (withoutSeparators text.toList) = some ds ∧ ds ≠ [] ∧
        y = ofNat (positional radix.toNat ds) := by
  have hr0 : radix ≠ 0 := by
    rintro rfl
    exact absurd hr (by decide)
  by_cases hempty : text = ""
  · subst hempty
    rw [readRadix_empty hr]
    constructor
    · intro h
      cases h
    · rintro ⟨ds, hds, hne, _⟩
      exact absurd (Option.some.inj hds).symm hne
  · obtain ⟨n, hn⟩ := bytesBound_isOk hr hsize
    rw [readRadix_eq_readDigits hr hn hempty, readDigits_eq]
    cases hds : digitsIn? radix.toNat (withoutSeparators text.toList) with
    | none => simp
    | some ds =>
      cases ds with
      | nil => simp
      | cons d ds =>
        have hlt := lt_of_map_digitIn? (digitsIn?_eq_some_iff.mp hds)
        simp only [accumulate_eq_ofNat hr0 hlt]
        simp [eq_comm]

/-- A text of digits is read as the shortest encoding of its number. -/
theorem readRadix_of_numeralValue? {n : Nat} (hr : Estimate.isRadix radix.toNat = true)
    (hsize : text.utf8ByteSize ≤ Estimate.maxSize) (hne : text.toList ≠ [])
    (h : numeralValue? radix.toNat text.toList = some n) : readRadix text radix = .ok (ofNat n) := by
  obtain ⟨ds, hds, hval⟩ := Option.map_eq_some_iff.mp h
  rw [readRadix_eq_ok_iff hr hsize, withoutSeparators_eq_self h]
  refine ⟨ds, hds, ?_, by rw [hval]⟩
  rintro rfl
  have hmap := digitsIn?_eq_some_iff.mp hds
  exact hne (List.map_eq_nil_iff.mp hmap)

end

end Tribase.Octets
