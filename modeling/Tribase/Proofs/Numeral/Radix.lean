import Mathlib.Logic.Relation
import Tribase.Proofs.Numeral.Reading

/-!
# Numerals of one radix

Which texts are numerals of a radix, and of which number, said by rules and without the reader.

* `IsDigit radix c d`, `Foreign radix c`: the alphabet of a radix, and what is outside it;
* `Digits radix cs ds`: the text is digits with separators at will;
* `RadixVerdict radix cs r`: the rules by which a text is accepted or refused;
* `readRadix_eq_iff_verdict`: the reader answers `r` iff the rules do;
* `Respells cs cs'`: one change of a text that leaves its number alone;
* **`readRadix_decides`**: the reader against the rules, and what no respelling changes.
-/

namespace Tribase

/-! ## 1. The alphabet -/

/-- The digits of all radices in order, in lower case. -/
def lowerDigits : List Char :=
  "0123456789abcdefghijklmnopqrstuvwxyz".toList

/-- The digits of all radices in order, in upper case. -/
def upperDigits : List Char :=
  "0123456789ABCDEFGHIJKLMNOPQRSTUVWXYZ".toList

/-- The character is the digit `d` of the radix, in either case. -/
def IsDigit (radix : Nat) (c : Char) (d : Nat) : Prop :=
  d < radix ∧ (lowerDigits[d]? = some c ∨ upperDigits[d]? = some c)

/-- The character is neither a separator nor a digit of the radix. -/
def Foreign (radix : Nat) (c : Char) : Prop :=
  c ≠ '_' ∧ ∀ d, ¬ IsDigit radix c d

instance (radix : Nat) (c : Char) (d : Nat) : Decidable (IsDigit radix c d) :=
  inferInstanceAs (Decidable (_ ∧ _))

/-- A character of a range is as far from its start as its number says. -/
theorem eq_ofNat_of_range {lo hi c : Char} (h : lo ≤ c ∧ c ≤ hi) :
    c = Char.ofNat (lo.toNat + (c.toNat - lo.toNat)) ∧
      c.toNat - lo.toNat < hi.toNat + 1 - lo.toNat := by
  have hlo : lo.toNat ≤ c.toNat := h.1
  have hhi : c.toNat ≤ hi.toNat := h.2
  constructor
  · rw [Nat.add_sub_cancel' hlo, Char.ofNat_toNat]
  · omega

/-- There are thirty-six digits. -/
theorem lt_of_getElem?_digits {c : Char} {d : Nat}
    (h : lowerDigits[d]? = some c ∨ upperDigits[d]? = some c) : d < 36 := by
  rcases h with h | h
  · exact (List.getElem?_eq_some_iff.mp h).1
  · exact (List.getElem?_eq_some_iff.mp h).1

/-- **The value of a character is its place in the alphabet.** -/
theorem digitValue?_eq_some_iff {c : Char} {d : Nat} :
    digitValue? c = some d ↔ lowerDigits[d]? = some c ∨ upperDigits[d]? = some c := by
  constructor
  · intro h
    have hdigit : ∀ k < 10, lowerDigits[k]? = some (Char.ofNat ('0'.toNat + k)) := by decide
    have hlower : ∀ k < 26, lowerDigits[k + 10]? = some (Char.ofNat ('a'.toNat + k)) := by decide
    have hupper : ∀ k < 26, upperDigits[k + 10]? = some (Char.ofNat ('A'.toNat + k)) := by decide
    unfold digitValue? at h
    split at h
    · rename_i hrange
      obtain ⟨hc, hlt⟩ := eq_ofNat_of_range hrange
      cases h
      exact .inl (by rw [hdigit _ hlt, ← hc])
    · split at h
      · rename_i hrange
        obtain ⟨hc, hlt⟩ := eq_ofNat_of_range hrange
        cases h
        exact .inl (by rw [hlower _ hlt, ← hc])
      · split at h
        · rename_i hrange
          obtain ⟨hc, hlt⟩ := eq_ofNat_of_range hrange
          cases h
          exact .inr (by rw [hupper _ hlt, ← hc])
        · cases h
  · intro h
    have hlower : ∀ k < 36, (lowerDigits[k]?).bind digitValue? = some k := by decide
    have hupper : ∀ k < 36, (upperDigits[k]?).bind digitValue? = some k := by decide
    have hd := lt_of_getElem?_digits h
    rcases h with h | h
    · have hval := hlower d hd
      rwa [h] at hval
    · have hval := hupper d hd
      rwa [h] at hval

theorem digitIn?_eq_some_iff {radix d : Nat} {c : Char} :
    digitIn? radix c = some d ↔ IsDigit radix c d := by
  rw [digitIn?, Option.filter_eq_some_iff, digitValue?_eq_some_iff, IsDigit, decide_eq_true_eq]
  exact And.comm

theorem foreign_iff {radix : Nat} {c : Char} :
    Foreign radix c ↔ c ≠ '_' ∧ digitIn? radix c = none := by
  simp only [Foreign, ← digitIn?_eq_some_iff, ← Option.eq_none_iff_forall_ne_some]

instance (radix : Nat) (c : Char) : Decidable (Foreign radix c) :=
  decidable_of_iff _ foreign_iff.symm

namespace IsDigit

variable {radix d : Nat} {c : Char}

theorem ne_separator (h : IsDigit radix c d) : c ≠ '_' := by
  rintro rfl
  have hnone := digitIn?_underscore radix
  rw [digitIn?_eq_some_iff.mpr h] at hnone
  cases hnone

/-- A letter is the same digit in either case. -/
theorem recase (h : IsDigit radix c d) :
    IsDigit radix c.toLower d ∧ IsDigit radix c.toUpper d := by
  have hlower : lowerDigits.map Char.toLower = lowerDigits ∧
      upperDigits.map Char.toLower = lowerDigits := by decide
  have hupper : lowerDigits.map Char.toUpper = upperDigits ∧
      upperDigits.map Char.toUpper = upperDigits := by decide
  rcases h.2 with hc | hc
  · refine ⟨⟨h.1, .inl ?_⟩, h.1, .inr ?_⟩
    · rw [← hlower.1, List.getElem?_map, hc, Option.map_some]
    · rw [← hupper.1, List.getElem?_map, hc, Option.map_some]
  · refine ⟨⟨h.1, .inl ?_⟩, h.1, .inr ?_⟩
    · rw [← hlower.2, List.getElem?_map, hc, Option.map_some]
    · rw [← hupper.2, List.getElem?_map, hc, Option.map_some]

end IsDigit

/-! ## 2. Texts of digits -/

/-- The text is digits of the radix, with separators at will; without these, the digits are `ds`. -/
inductive Digits (radix : Nat) : List Char → List Nat → Prop where
  | nil : Digits radix [] []
  | separator {cs : List Char} {ds : List Nat} (h : Digits radix cs ds) : Digits radix ('_' :: cs) ds
  | digit {c : Char} {d : Nat} {cs : List Char} {ds : List Nat} (hc : IsDigit radix c d)
      (h : Digits radix cs ds) : Digits radix (c :: cs) (d :: ds)

namespace Digits

variable {radix : Nat} {cs : List Char} {ds : List Nat}

/-- Nothing in a text of digits is foreign. -/
theorem not_foreign (h : Digits radix cs ds) : ∀ c ∈ cs, ¬ Foreign radix c := by
  induction h with
  | nil => simp
  | separator _ ih => exact List.forall_mem_cons.mpr ⟨fun hf => hf.1 rfl, ih⟩
  | digit hc _ ih => exact List.forall_mem_cons.mpr ⟨fun hf => hf.2 _ hc, ih⟩

/-- There is no digit iff there are only separators. -/
theorem eq_nil_iff (h : Digits radix cs ds) : ds = [] ↔ ∀ c ∈ cs, c = '_' := by
  induction h with
  | nil => simp
  | separator _ ih => simpa using ih
  | digit hc _ _ => simp [hc.ne_separator]

theorem ne_nil (h : Digits radix cs ds) (hne : ds ≠ []) : cs ≠ [] := by
  rintro rfl
  exact hne (h.eq_nil_iff.mpr (List.forall_mem_nil _))

/-- What follows may be exchanged for a text of the same digits. -/
theorem append_congr {as bs bs' : List Char} (hbs : ∀ es, Digits radix bs es → Digits radix bs' es)
    (h : Digits radix (as ++ bs) ds) : Digits radix (as ++ bs') ds := by
  induction as generalizing ds with
  | nil => exact hbs ds h
  | cons a as ih =>
    rw [List.cons_append] at h ⊢
    cases h with
    | separator h => exact .separator (ih h)
    | digit hc h => exact .digit hc (ih h)

theorem of_separator (h : Digits radix ('_' :: cs) ds) : Digits radix cs ds := by
  cases h with
  | separator h => exact h
  | digit hc _ => exact absurd rfl hc.ne_separator

end Digits

/-- Where nothing is foreign, the text is digits. -/
theorem exists_digits {radix : Nat} {cs : List Char} (h : ∀ c ∈ cs, ¬ Foreign radix c) :
    ∃ ds, Digits radix cs ds := by
  induction cs with
  | nil => exact ⟨[], .nil⟩
  | cons c cs ih =>
    obtain ⟨ds, hds⟩ := ih fun e he => h e (List.mem_cons_of_mem c he)
    by_cases hsep : c = '_'
    · exact ⟨ds, hsep ▸ .separator hds⟩
    · have hc : ¬ ∀ d, ¬ IsDigit radix c d := fun hall => h c List.mem_cons_self ⟨hsep, hall⟩
      obtain ⟨d, hd⟩ := Classical.not_forall_not.mp hc
      exact ⟨d :: ds, .digit hd hds⟩

/-- A text has a foreign character, or no digit, or digits only. -/
theorem digits_cases (radix : Nat) (cs : List Char) :
    (∃ c ∈ cs, Foreign radix c) ∨ (∀ c ∈ cs, c = '_') ∨ ∃ ds, Digits radix cs ds ∧ ds ≠ [] := by
  by_cases hforeign : ∃ c ∈ cs, Foreign radix c
  · exact .inl hforeign
  · obtain ⟨ds, hds⟩ := exists_digits fun c hc hf => hforeign ⟨c, hc, hf⟩
    by_cases hne : ds = []
    · exact .inr (.inl (hds.eq_nil_iff.mp hne))
    · exact .inr (.inr ⟨ds, hds, hne⟩)

namespace Octets

section

variable {radix : Nat} {cs : List Char} {ds : List Nat}

theorem readDigits_eq_ok_iff : readDigits radix cs = .ok ds ↔ Digits radix cs ds := by
  constructor
  · intro h
    fun_induction readDigits radix cs generalizing ds with
    | case1 =>
      cases h
      exact .nil
    | case2 cs ih => exact .separator (ih h)
    | case3 c cs hc hnone => cases h
    | case4 c cs hc d hd ih =>
      cases hcs : readDigits radix cs with
      | error e =>
        rw [hcs] at h
        cases h
      | ok es =>
        rw [hcs] at h
        cases h
        exact .digit (digitIn?_eq_some_iff.mp hd) (ih hcs)
  · intro h
    induction h with
    | nil => rfl
    | separator _ ih => exact ih
    | digit hc _ ih =>
      rw [readDigits, if_neg hc.ne_separator, digitIn?_eq_some_iff.mpr hc, ih]
      rfl

theorem digits_iff : Digits radix cs ds ↔ digitsIn? radix (withoutSeparators cs) = some ds := by
  rw [← readDigits_eq_ok_iff, readDigits_eq]
  cases digitsIn? radix (withoutSeparators cs) <;> simp

theorem readDigits_of_foreign {c : Char} (hc : c ∈ cs) (h : Foreign radix c) :
    readDigits radix cs = .error .badChar := by
  rw [readDigits_eq]
  cases hds : digitsIn? radix (withoutSeparators cs) with
  | none => rfl
  | some ds => exact absurd h ((digits_iff.mpr hds).not_foreign c hc)

end

/-! ## 3. Rules -/

/-- What a text stands for in a radix, or why it is refused. -/
inductive RadixVerdict (radix : Nat) (cs : List Char) : Except NumeralError Octets → Prop where
  /-- The radices go from two to thirty-six. -/
  | badRadix (hr : ¬ (2 ≤ radix ∧ radix ≤ 36)) : RadixVerdict radix cs (.error .badRadix)
  /-- There has to be a text. -/
  | empty (hr : 2 ≤ radix ∧ radix ≤ 36) (h : cs = []) : RadixVerdict radix cs (.error .empty)
  /-- One foreign character spoils it. -/
  | badChar {c : Char} (hr : 2 ≤ radix ∧ radix ≤ 36) (hc : c ∈ cs) (h : Foreign radix c) :
      RadixVerdict radix cs (.error .badChar)
  /-- Separators alone are no numeral. -/
  | noDigits (hr : 2 ≤ radix ∧ radix ≤ 36) (hne : cs ≠ []) (h : ∀ c ∈ cs, c = '_') :
      RadixVerdict radix cs (.error .noDigits)
  /-- Digits stand for their number. -/
  | number {ds : List Nat} {y : Octets} (hr : 2 ≤ radix ∧ radix ≤ 36) (h : Digits radix cs ds)
      (hne : ds ≠ []) (hlead : y.Canonical) (hval : y.value = positional radix ds) :
      RadixVerdict radix cs (.ok y)

/-- The rules leave no text out. -/
theorem RadixVerdict.exists (radix : Nat) (cs : List Char) : ∃ r, RadixVerdict radix cs r := by
  by_cases hr : 2 ≤ radix ∧ radix ≤ 36
  · by_cases hempty : cs = []
    · exact ⟨_, .empty hr hempty⟩
    · rcases digits_cases radix cs with ⟨c, hc, hf⟩ | hseparators | ⟨ds, hds, hne⟩
      · exact ⟨_, .badChar hr hc hf⟩
      · exact ⟨_, .noDigits hr hempty hseparators⟩
      · exact ⟨_, .number hr hds hne (canonical_ofNat _) (value_ofNat _)⟩
  · exact ⟨_, .badRadix hr⟩

section

variable {text : String} {radix : UInt8}

/-- **The reader follows every rule.** -/
theorem readRadix_of_verdict {r : Except NumeralError Octets}
    (hsize : text.utf8ByteSize ≤ Estimate.maxSize) (h : RadixVerdict radix.toNat text.toList r) :
    readRadix text radix = r := by
  cases h with
  | badRadix hr =>
    have hfalse : Estimate.isRadix radix.toNat = false :=
      Bool.eq_false_iff.mpr fun h => hr (isRadix_iff.mp h)
    unfold readRadix
    rw [hfalse]
    rfl
  | empty hr h =>
    rw [String.toList_eq_nil_iff.mp h]
    exact readRadix_empty (isRadix_iff.mpr hr)
  | badChar hr hc h =>
    obtain ⟨n, hn⟩ := bytesBound_isOk (isRadix_iff.mpr hr) hsize
    have hne : text ≠ "" := String.toList_eq_nil_iff.not.mp (List.ne_nil_of_mem hc)
    rw [readRadix_eq_readDigits (isRadix_iff.mpr hr) hn hne, readDigits_of_foreign hc h]
  | noDigits hr hne h =>
    obtain ⟨n, hn⟩ := bytesBound_isOk (isRadix_iff.mpr hr) hsize
    obtain ⟨ds, hds⟩ := exists_digits fun c hc (hf : Foreign radix.toNat c) => hf.1 (h c hc)
    rw [hds.eq_nil_iff.mpr h] at hds
    rw [readRadix_eq_readDigits (isRadix_iff.mpr hr) hn (String.toList_eq_nil_iff.not.mp hne),
      readDigits_eq_ok_iff.mpr hds]
  | number hr h hne hlead hval =>
    rw [readRadix_eq_ok_iff (isRadix_iff.mpr hr) hsize]
    exact ⟨_, digits_iff.mp h, hne, hval ▸ hlead.eq_ofNat⟩

theorem readRadix_eq_iff_verdict {r : Except NumeralError Octets}
    (hsize : text.utf8ByteSize ≤ Estimate.maxSize) :
    readRadix text radix = r ↔ RadixVerdict radix.toNat text.toList r := by
  constructor
  · rintro rfl
    obtain ⟨r, hr⟩ := RadixVerdict.exists radix.toNat text.toList
    rwa [readRadix_of_verdict hsize hr]
  · exact readRadix_of_verdict hsize

end

end Octets

/-! ## 4. Respellings -/

/-- One change of a text that leaves its number alone: a separator more or less, a zero in front, a
    letter in the other case. -/
inductive Respells : List Char → List Char → Prop where
  | insert (before after : List Char) : Respells (before ++ after) (before ++ '_' :: after)
  | delete (before after : List Char) : Respells (before ++ '_' :: after) (before ++ after)
  | zero (cs : List Char) : Respells cs ('0' :: cs)
  | lower (before : List Char) (c : Char) (after : List Char) :
      Respells (before ++ c :: after) (before ++ c.toLower :: after)
  | upper (before : List Char) (c : Char) (after : List Char) :
      Respells (before ++ c :: after) (before ++ c.toUpper :: after)

/-- What one change does to the digits. -/
theorem Digits.respell {radix : Nat} (hr : 0 < radix) {cs cs' : List Char} {ds : List Nat}
    (h : Digits radix cs ds) (hstep : Respells cs cs') :
    Digits radix cs' ds ∨ Digits radix cs' (0 :: ds) := by
  cases hstep with
  | insert before after => exact .inl (h.append_congr fun _ => .separator)
  | delete before after => exact .inl (h.append_congr fun _ => of_separator)
  | zero cs => exact .inr (.digit ⟨hr, .inl rfl⟩ h)
  | lower before c after =>
    refine .inl (h.append_congr fun es hes => ?_)
    cases hes with
    | separator hes => exact .separator hes
    | digit hc hes => exact .digit hc.recase.1 hes
  | upper before c after =>
    refine .inl (h.append_congr fun es hes => ?_)
    cases hes with
    | separator hes => exact .separator hes
    | digit hc hes => exact .digit hc.recase.2 hes

namespace Octets

/-- A change keeps the number. -/
theorem RadixVerdict.respell {radix : Nat} {cs cs' : List Char} {y : Octets}
    (h : RadixVerdict radix cs (.ok y)) (hstep : Respells cs cs') :
    RadixVerdict radix cs' (.ok y) := by
  cases h with
  | @number ds _ hr h hne hlead hval =>
    rcases h.respell (Nat.lt_of_lt_of_le (by decide) hr.1) hstep with h' | h'
    · exact .number hr h' hne hlead hval
    · refine .number hr h' (List.cons_ne_nil 0 ds) hlead ?_
      rw [positional_cons, Nat.zero_mul, Nat.zero_add, hval]

/-- So do any number of changes. -/
theorem RadixVerdict.respells {radix : Nat} {cs cs' : List Char} {y : Octets}
    (h : RadixVerdict radix cs (.ok y)) (hsteps : Relation.ReflTransGen Respells cs cs') :
    RadixVerdict radix cs' (.ok y) := by
  induction hsteps with
  | refl => exact h
  | tail _ hstep ih => exact ih.respell hstep

/-- **Reading is positional evaluation in every radix**: of a text that memory can hold, the reader
    says what the rules say, and separators, zeros in front and the case of letters do not count. -/
theorem readRadix_decides (text : String) (radix : UInt8)
    (hsize : text.utf8ByteSize ≤ Estimate.maxSize) :
    (∀ r, readRadix text radix = r ↔ RadixVerdict radix.toNat text.toList r) ∧
    ∀ (y : Octets) (text' : String), readRadix text radix = .ok y →
      Relation.ReflTransGen Respells text.toList text'.toList →
      text'.utf8ByteSize ≤ Estimate.maxSize → readRadix text' radix = .ok y := by
  refine ⟨fun r => readRadix_eq_iff_verdict hsize, ?_⟩
  intro y text' hread hsteps hsize'
  have hverdict := (readRadix_eq_iff_verdict hsize).mp hread
  exact readRadix_of_verdict hsize' (hverdict.respells hsteps)

/-- The greatest digit twice, in two cases, and the same with a zero and a separator. -/
theorem readRadix_decides_respelled :
    RadixVerdict 36 "zZ".toList (.ok ⟨[5, 15]⟩) ∧ readRadix "zZ" 36 = .ok ⟨[5, 15]⟩ ∧
      readRadix "0z_z" 36 = .ok ⟨[5, 15]⟩ := by
  obtain ⟨hrules, hsame⟩ := readRadix_decides "zZ" 36 (by decide)
  have hdigits : Digits 36 "zZ".toList [35, 35] := .digit (by decide) (.digit (by decide) .nil)
  have hverdict : RadixVerdict 36 "zZ".toList (.ok ⟨[5, 15]⟩) :=
    .number (by decide) hdigits (by decide) (by decide) rfl
  have hread := (hrules _).mpr hverdict
  have hsteps : Relation.ReflTransGen Respells "zZ".toList "0z_z".toList :=
    ((Relation.ReflTransGen.single (.lower ['z'] 'Z' [])).tail (.insert ['z'] ['z'])).tail
      (.zero ['z', '_', 'z'])
  exact ⟨hverdict, hread, hsame _ "0z_z" hread hsteps (by decide)⟩

end Octets

end Tribase
