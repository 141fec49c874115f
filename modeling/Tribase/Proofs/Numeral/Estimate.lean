import Mathlib.Data.String.Basic
import Tribase.Proofs.Numeral.Decimal
import Tribase.Proofs.Numeral.Radix

/-!
# Estimates that suffice

The estimates of sizes are made in fixed point, from tables that are rounded up. No estimate is too
small, whatever the length, so what is read and what is written stays within it.

* `pow_le_log2Table`, `two_pow_le_invLog2Table`: every entry of the tables errs upward;
* `pow_le_of_ratio`: a ratio that errs upward does so for all lengths;
* `pow_le_of_bytesBound`, `two_pow_le_of_charsBound`: so the estimates suffice;
* `Intake`: the reader between two characters, `Intake.take?` one character, `Intake.Run` any number;
* `Intake.exists_end`: the run is the reader's own;
* `Intake.Within`: what the reader holds, and what the rest of the text can make of it;
* **`estimates_suffice`**: the estimates, and the reader and the decimal writer within them.
-/

namespace Tribase

namespace Estimate

/-! ## 1. Logarithms in fixed point -/

/-- The logarithms are rounded up: in units of `2⁻¹³`, `radix` is at most two to its entry. -/
theorem pow_le_log2Table {radix : Nat} (hr : isRadix radix = true) :
    radix ^ 8192 ≤ 2 ^ log2Table.getD radix 0 := by
  have hall : ∀ r < 37, isRadix r = true → r ^ 8192 ≤ 2 ^ log2Table.getD r 0 := by decide +kernel
  exact hall radix (Nat.lt_succ_of_le (Octets.isRadix_iff.mp hr).2) hr

/-- The reciprocals are rounded up: in units of `2⁻¹⁵`, two is at most `radix` to its entry. -/
theorem two_pow_le_invLog2Table {radix : Nat} (hr : isRadix radix = true) :
    2 ^ 32768 ≤ radix ^ invLog2Table.getD radix 0 := by
  have hall : ∀ r < 37, isRadix r = true → 2 ^ 32768 ≤ r ^ invLog2Table.getD r 0 := by decide +kernel
  exact hall radix (Nat.lt_succ_of_le (Octets.isRadix_iff.mp hr).2) hr

/-- Where `a ^ s ≤ b ^ t`, the ratio `t / s` is no less than the logarithm of `a` to the base `b`.
    So `k` factors `a` are no more than `m` factors `b`, from `k * t / s` factors on. -/
theorem pow_le_of_ratio {a b s t : Nat} (hs : s ≠ 0) (hb : 0 < b) (h : a ^ s ≤ b ^ t) {k m : Nat}
    (hkm : t * k ≤ s * m) : a ^ k ≤ b ^ m := by
  refine (Nat.pow_le_pow_iff_left hs).mp ?_
  calc (a ^ k) ^ s = (a ^ s) ^ k := Nat.pow_right_comm a k s
    _ ≤ (b ^ t) ^ k := Nat.pow_le_pow_left h k
    _ = b ^ (t * k) := (Nat.pow_mul b t k).symm
    _ ≤ b ^ (s * m) := Nat.pow_le_pow_right hb hkm
    _ = (b ^ m) ^ s := by rw [Nat.mul_comm, Nat.pow_mul]

/-! ## 2. The two bounds -/

theorem checkSize_eq_ok_iff {n size : Nat} : checkSize n = .ok size ↔ n = size ∧ n ≤ maxSize := by
  unfold checkSize
  split
  · rename_i hle
    simp [hle]
  · rename_i hgt
    simp [hgt]

section

variable {radix n : Nat} (hr : isRadix radix = true)
include hr

/-- **A number of bytes that holds every numeral**: `radix ^ len` is no more than `256 ^ n`. -/
theorem pow_le_of_bytesBound {len : Nat} (h : bytesBound len radix = .ok n) :
    radix ^ len ≤ 256 ^ n := by
  unfold bytesBound at h
  rw [if_pos hr, checkSize_eq_ok_iff, Nat.mul_succ] at h
  rw [pow_256]
  refine pow_le_of_ratio (by decide) (by decide) (pow_le_log2Table hr) ?_
  omega

/-- **A number of digits that holds every number**: `2 ^ bits` is no more than `radix ^ n`. -/
theorem two_pow_le_of_charsBound {bits : Nat} (h : charsBound bits radix = .ok n) :
    1 ≤ n ∧ 2 ^ bits ≤ radix ^ n := by
  unfold charsBound at h
  rw [if_pos hr, checkSize_eq_ok_iff, Nat.mul_succ] at h
  refine ⟨by omega, pow_le_of_ratio (by decide) (Octets.pos_of_isRadix hr)
    (two_pow_le_invLog2Table hr) ?_⟩
  omega

/-- Every number of bits has an estimate, as long as two digits more than bits can be stored. -/
theorem charsBound_isOk {bits : Nat} (hbits : bits + 2 ≤ maxSize) :
    ∃ n, charsBound bits radix = .ok n := by
  have htable : ∀ r < 37, invLog2Table.getD r 0 ≤ 32768 := by decide
  have hentry := htable radix (Nat.lt_succ_of_le (Octets.isRadix_iff.mp hr).2)
  have hmul := Nat.mul_le_mul_right (bits + 1) hentry
  unfold charsBound
  rw [if_pos hr]
  refine ⟨_, checkSize_eq_ok_iff.mpr ⟨rfl, ?_⟩⟩
  generalize invLog2Table.getD radix 0 * (bits + 1) = t at hmul
  omega

end

end Estimate

/-! ## 3. The reader, character by character -/

/-- The reader between two characters. -/
structure Intake where
  /-- The text still to be read. -/
  rest : List Char
  /-- The number read so far as bytes, least significant first. -/
  acc : List UInt8
  /-- Whether there was a digit. -/
  any : Bool
deriving DecidableEq, Repr

namespace Intake

open Octets

/-- Where the reader starts. -/
def start (text : String) : Intake :=
  ⟨text.toList, [], false⟩

/-- One character: a separator is passed over, a digit makes one pass over the bytes. There is no
    step at the end of the text, and none at a foreign character. -/
def take? (radix : UInt8) (t : Intake) : Option Intake :=
  match t.rest with
  | [] => none
  | c :: cs =>
    if c = '_' then some ⟨cs, t.acc, t.any⟩
    else (digitIn? radix.toNat c).map fun d => ⟨cs, scaleAdd radix t.acc (UInt8.ofNat d), true⟩

/-- Any number of characters. -/
def Run (radix : UInt8) : Intake → Intake → Prop :=
  Relation.ReflTransGen fun t t' => t.take? radix = some t'

/-- The answer where there is no further step. -/
def verdict (t : Intake) : Except NumeralError Octets :=
  if t.rest ≠ [] then .error .badChar
  else if t.any then .ok ⟨t.acc.reverse⟩
  else .error .noDigits

/-- The answer from any state on, with the digits of the rest read ahead. -/
def answer (radix : UInt8) (t : Intake) : Except NumeralError Octets :=
  match readDigits radix.toNat t.rest with
  | .error e => .error e
  | .ok ds =>
    if t.any || !ds.isEmpty then
      .ok ⟨(ds.foldl (fun acc d => scaleAdd radix acc (UInt8.ofNat d)) t.acc).reverse⟩
    else
      .error .noDigits

variable {radix : UInt8} {t t' : Intake}

/-- What a character can be. -/
theorem take?_cases (h : t.take? radix = some t') :
    (∃ cs, t.rest = '_' :: cs ∧ t' = ⟨cs, t.acc, t.any⟩) ∨
      ∃ c cs d, t.rest = c :: cs ∧ c ≠ '_' ∧ digitIn? radix.toNat c = some d ∧
        t' = ⟨cs, scaleAdd radix t.acc (UInt8.ofNat d), true⟩ := by
  unfold take? at h
  split at h
  · cases h
  · rename_i c cs hrest
    split at h
    · rename_i hsep
      exact .inl ⟨cs, hsep ▸ hrest, (Option.some.inj h).symm⟩
    · rename_i hc
      obtain ⟨d, hd, hnext⟩ := Option.map_eq_some_iff.mp h
      exact .inr ⟨c, cs, d, hrest, hc, hd, hnext.symm⟩

/-- A step takes one character off the rest. -/
theorem exists_rest_of_take? (h : t.take? radix = some t') : ∃ c, t.rest = c :: t'.rest := by
  rcases take?_cases h with ⟨cs, hrest, rfl⟩ | ⟨c, cs, d, hrest, _, _, rfl⟩
  · exact ⟨'_', hrest⟩
  · exact ⟨c, hrest⟩

/-- A character does not change the answer. -/
theorem answer_take? (h : t.take? radix = some t') : t'.answer radix = t.answer radix := by
  rcases take?_cases h with ⟨cs, hrest, rfl⟩ | ⟨c, cs, d, hrest, hc, hd, rfl⟩
  · rw [answer, answer, hrest, readDigits, if_pos rfl]
  · rw [answer, answer, hrest, readDigits, if_neg hc, hd]
    cases readDigits radix.toNat cs with
    | error e => rfl
    | ok ds => simp [Except.map]

theorem Run.answer_eq (h : Run radix t t') : t'.answer radix = t.answer radix := by
  induction h with
  | refl => rfl
  | tail _ hstep ih => rw [answer_take? hstep, ih]

/-- Where there is no further step, the text is at its end or a character is foreign. -/
theorem answer_of_end (h : t.take? radix = none) : t.answer radix = t.verdict := by
  unfold take? at h
  split at h
  · rename_i hrest
    simp [answer, verdict, hrest, readDigits]
  · rename_i c cs hrest
    split at h
    · cases h
    · rename_i hc
      rw [Option.map_eq_none_iff] at h
      simp [answer, verdict, hrest, readDigits, hc, h]

/-- **The reader is the run**: what it answers is the verdict at the end of the characters. -/
theorem exists_end (hr : Estimate.isRadix radix.toNat = true) {text : String} {n : Nat}
    (hsize : Estimate.bytesBound text.utf8ByteSize radix.toNat = .ok n) :
    ∃ last, Run radix (start text) last ∧ last.take? radix = none ∧
      readRadix text radix = if text = "" then .error .empty else last.verdict := by
  obtain ⟨last, hrun, hend⟩ := exists_end_of_fall (take? radix) (fun t => t.rest.length)
    (fun t t' h => by
      obtain ⟨c, hrest⟩ := exists_rest_of_take? h
      rw [hrest]
      exact Nat.lt_succ_self _) (start text)
  refine ⟨last, hrun, hend, ?_⟩
  rw [← answer_of_end hend, Run.answer_eq hrun]
  by_cases hempty : text = ""
  · rw [if_pos hempty, hempty]
    exact readRadix_empty hr
  · rw [if_neg hempty, readRadix_eq_readDigits hr hsize hempty, answer, start]
    cases readDigits radix.toNat text.toList with
    | error e => rfl
    | ok ds => cases ds <;> rfl

/-! ## 4. Within the estimates -/

/-- What the reader holds is in its shortest form; and it stays below `radix ^ size` whatever the
    rest of the text is, where each byte of it may be a digit. -/
structure Within (radix : UInt8) (size : Nat) (t : Intake) : Prop where
  top : NoTopZero t.acc
  room : (Byte.valueLow t.acc + 1) * radix.toNat ^ String.utf8Len t.rest ≤ radix.toNat ^ size

theorem within_start (radix : UInt8) (text : String) :
    Within radix text.utf8ByteSize (start text) := by
  have hsize : text.utf8ByteSize = String.utf8Len text.toList := by
    rw [← String.utf8ByteSize_ofList, String.ofList_toList]
  refine ⟨by simp [NoTopZero, start], ?_⟩
  rw [hsize]
  exact Nat.le_of_eq (Nat.one_mul _)

/-- A character takes a byte, and that pays for one more digit. -/
theorem Within.next {size : Nat} (h : Within radix size t) (hr : 0 < radix.toNat) {c : Char}
    (hrest : t.rest = c :: t'.rest) (htop : NoTopZero t'.acc)
    (hval : Byte.valueLow t'.acc + 1 ≤ (Byte.valueLow t.acc + 1) * radix.toNat) :
    Within radix size t' := by
  refine ⟨htop, ?_⟩
  have hbytes : String.utf8Len t'.rest + 1 ≤ String.utf8Len t.rest := by
    have hpos := c.utf8Size_pos
    rw [hrest, String.utf8Len]
    omega
  calc (Byte.valueLow t'.acc + 1) * radix.toNat ^ String.utf8Len t'.rest
      ≤ (Byte.valueLow t.acc + 1) * radix.toNat * radix.toNat ^ String.utf8Len t'.rest :=
        Nat.mul_le_mul_right _ hval
    _ = (Byte.valueLow t.acc + 1) * radix.toNat ^ (String.utf8Len t'.rest + 1) := by
        rw [Nat.mul_assoc, Nat.pow_succ']
    _ ≤ (Byte.valueLow t.acc + 1) * radix.toNat ^ String.utf8Len t.rest :=
        Nat.mul_le_mul_left _ (Nat.pow_le_pow_right hr hbytes)
    _ ≤ radix.toNat ^ size := h.room

theorem Within.take {size : Nat} (h : Within radix size t) (hr : 0 < radix.toNat)
    (hstep : t.take? radix = some t') : Within radix size t' := by
  rcases take?_cases hstep with ⟨cs, hrest, rfl⟩ | ⟨c, cs, d, hrest, _, hd, rfl⟩
  · exact h.next hr hrest h.top (Nat.le_mul_of_pos_right _ hr)
  · have hlt := digitIn?_lt hd
    have hdigit : (UInt8.ofNat d).toNat = d :=
      UInt8.toNat_ofNat_of_lt' (hlt.trans radix.toNat_lt)
    have hne : radix ≠ 0 := fun e => absurd hr (by rw [e]; decide)
    refine h.next hr hrest (noTopZero_scaleAdd hne h.top _) ?_
    rw [valueLow_scaleAdd, hdigit, Nat.add_mul]
    omega

theorem Run.within {text : String} (hr : 0 < radix.toNat) (h : Run radix (start text) t) :
    Within radix text.utf8ByteSize t := by
  induction h with
  | refl => exact within_start radix text
  | tail _ hstep ih => exact ih.take hr hstep

/-- **The reader stays within the estimate** at every character. -/
theorem Run.length_acc_le (hr : Estimate.isRadix radix.toNat = true) {text : String} {n : Nat}
    (hsize : Estimate.bytesBound text.utf8ByteSize radix.toNat = .ok n)
    (h : Run radix (start text) t) : t.acc.length ≤ n := by
  have hpos := pos_of_isRadix hr
  have hwithin := h.within hpos
  refine hwithin.top.length_le ?_
  calc Byte.valueLow t.acc + 1
      ≤ (Byte.valueLow t.acc + 1) * radix.toNat ^ String.utf8Len t.rest :=
        Nat.le_mul_of_pos_right _ (Nat.pow_pos hpos)
    _ ≤ radix.toNat ^ text.utf8ByteSize := hwithin.room
    _ ≤ 256 ^ n := Estimate.pow_le_of_bytesBound hr hsize

end Intake

namespace Octets

/-- **The decimal numeral stays within the estimate** for the bits of the bytes that count. -/
theorem length_decimal_le {x : Octets} {n : Nat}
    (h : Estimate.charsBound (8 * x.trim.length) 10 = .ok n) : x.decimal.length ≤ n := by
  obtain ⟨hone, hle⟩ := Estimate.two_pow_le_of_charsBound (by decide) h
  have hlt : x.value < 10 ^ n := by
    rw [← value_trim]
    refine (value_lt x.trim).trans_le ?_
    rwa [pow_256]
  rw [← String.length_toList]
  exact x.shortest_decimal.length_le (by decide) hone hlt

/-- **The estimates suffice**, for every radix and every length. The bytes estimated for a number of
    digits hold every numeral of that many, and there is an estimate for all that memory can hold;
    so do the digits estimated for a number of bits. The reader never holds more bytes than
    estimated for its text, at any character on the way to its answer, and the decimal writer never
    writes more digits than estimated for its bytes. -/
theorem estimates_suffice (radix : UInt8) (hr : 2 ≤ radix.toNat ∧ radix.toNat ≤ 36) :
    (∀ len, (∀ n, Estimate.bytesBound len radix.toNat = .ok n → radix.toNat ^ len ≤ 256 ^ n) ∧
      (len ≤ 2 ^ 63 - 1 → ∃ n, Estimate.bytesBound len radix.toNat = .ok n)) ∧
    (∀ bits, (∀ n, Estimate.charsBound bits radix.toNat = .ok n →
        1 ≤ n ∧ 2 ^ bits ≤ radix.toNat ^ n) ∧
      (bits ≤ 2 ^ 63 - 3 → ∃ n, Estimate.charsBound bits radix.toNat = .ok n)) ∧
    (∀ text n, Estimate.bytesBound text.utf8ByteSize radix.toNat = .ok n →
      (∀ t, Intake.Run radix (.start text) t → t.acc.length ≤ n) ∧
      ∃ last, Intake.Run radix (.start text) last ∧ last.take? radix = none ∧
        readRadix text radix = if text = "" then .error .empty else last.verdict) ∧
    ∀ (x : Octets) n, Estimate.charsBound (8 * x.trim.length) 10 = .ok n → x.decimal.length ≤ n := by
  have hradix := isRadix_iff.mpr hr
  have hmax : Estimate.maxSize = 2 ^ 63 - 1 := rfl
  refine ⟨fun len => ⟨?_, fun hlen => ?_⟩, fun bits => ⟨?_, fun hbits => ?_⟩, ?_, ?_⟩
  · exact fun n => Estimate.pow_le_of_bytesBound hradix
  · exact bytesBound_isOk hradix hlen
  · exact fun n => Estimate.two_pow_le_of_charsBound hradix
  · exact Estimate.charsBound_isOk hradix (by omega)
  · intro text n hsize
    exact ⟨fun t hrun => hrun.length_acc_le hradix hsize, Intake.exists_end hradix hsize⟩
  · exact fun x n => length_decimal_le

/-- Radix ten: three characters that stand for ten, up to the greatest sizes, and a numeral of two
    bytes of which one counts. -/
theorem estimates_suffice_ten :
    Estimate.bytesBound 3 10 = .ok 2 ∧ 10 ^ 3 ≤ 256 ^ 2 ∧
    Estimate.charsBound 8 10 = .ok 3 ∧ 2 ^ 8 ≤ 10 ^ 3 ∧
    (∃ n, Estimate.bytesBound (2 ^ 63 - 1) 10 = .ok n) ∧
    (∃ n, Estimate.charsBound (2 ^ 63 - 3) 10 = .ok n) ∧
    Intake.Run 10 (.start "1_0") ⟨[], [10], true⟩ ∧ [10].length ≤ 2 ∧
    (⟨[0, 255]⟩ : Octets).decimal.length ≤ 3 := by
  obtain ⟨hbytes, hchars, hread, hwritten⟩ := estimates_suffice 10 (by decide)
  have hone : Intake.take? 10 (.start "1_0") = some ⟨['_', '0'], [1], true⟩ := rfl
  have hsep : Intake.take? 10 ⟨['_', '0'], [1], true⟩ = some ⟨['0'], [1], true⟩ := rfl
  have hzero : Intake.take? 10 ⟨['0'], [1], true⟩ = some ⟨[], [10], true⟩ := rfl
  have hrun : Intake.Run 10 (.start "1_0") ⟨[], [10], true⟩ :=
    .head hone (.head hsep (.single hzero))
  have htrim : (⟨[0, 255]⟩ : Octets).trim.length = 1 := by decide
  exact ⟨rfl, (hbytes 3).1 2 rfl, rfl, ((hchars 8).1 3 rfl).2, (hbytes _).2 (Nat.le_refl _),
    (hchars _).2 (Nat.le_refl _), hrun, (hread "1_0" 2 rfl).1 _ hrun,
    hwritten ⟨[0, 255]⟩ 3 (by rw [htrim]; rfl)⟩

end Octets

end Tribase
