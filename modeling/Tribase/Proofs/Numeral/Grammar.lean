import Tribase.Proofs.Numeral.Literal
import Tribase.Proofs.Numeral.Radix

/-!
# The grammar of literals

Which texts are literals, and of which number, said by rules and without the reader. A literal is an
optional plus sign, and then one of: a mark and digits of its radix; a `0` and octal digits; decimal
digits that do not start with `0`, or `0` alone.

* `Unsigned cs rest`, `Selects rest radix body`: the parts of any text, literal or not;
* `Literal mark body n`: the grammar;
* `literal_iff_selects`: where digits are selected, there is a literal, and nowhere else;
* `LiteralVerdict cs r`: the rules by which a text is accepted or refused;
* **`readLiteral_decides`**: the reader answers `r` iff the rules do;
* `SeparatorAdded cs cs'`: one separator more, behind a digit;
* **`readLiteral_insert_separator`**: it changes nothing, but for the literal `0`.
-/

namespace Tribase

/-! ## 1. The parts of a text -/

/-- The marks, and the radix that each of them names. -/
def marks : List (List Char × Nat) :=
  [(['0', 'x'], 16), (['0', 'X'], 16), (['0', 'o'], 8), (['0', 'O'], 8), (['0', 'b'], 2),
   (['0', 'B'], 2)]

/-- The characters are a mark of the radix. -/
def IsMark (mark : List Char) (radix : Nat) : Prop :=
  (mark, radix) ∈ marks

instance (mark : List Char) (radix : Nat) : Decidable (IsMark mark radix) :=
  inferInstanceAs (Decidable (_ ∈ _))

/-- A mark is a `0` and a letter, in either case. -/
theorem isMark_iff {c : Char} {radix : Nat} :
    IsMark ['0', c] radix ↔
      (c = 'x' ∨ c = 'X') ∧ radix = 16 ∨ (c = 'o' ∨ c = 'O') ∧ radix = 8 ∨
        (c = 'b' ∨ c = 'B') ∧ radix = 2 := by
  simp only [IsMark, marks, List.mem_cons, List.not_mem_nil, Prod.mk.injEq, List.cons.injEq]
  grind

/-- What is left of a text without one leading plus sign. -/
inductive Unsigned : List Char → List Char → Prop where
  | plus (cs : List Char) : Unsigned ('+' :: cs) cs
  | bare {cs : List Char} (h : cs.head? ≠ some '+') : Unsigned cs cs

/-- The radix that the start of a text names, and the body that has to be digits of it. -/
inductive Selects : List Char → Nat → List Char → Prop where
  /-- A mark is followed by the body. -/
  | marked {mark : List Char} {radix : Nat} (h : IsMark mark radix) (cs : List Char) :
      Selects (mark ++ cs) radix cs
  /-- So is a `0` with anything else behind it. -/
  | octal {c : Char} (h : ∀ radix, ¬ IsMark ['0', c] radix) (cs : List Char) :
      Selects ('0' :: c :: cs) 8 (c :: cs)
  /-- Otherwise all of it is the body. -/
  | decimal {cs : List Char} (h : cs = ['0'] ∨ cs.head? ≠ some '0') : Selects cs 10 cs

theorem Selects.radix_bounds {cs body : List Char} {radix : Nat} (h : Selects cs radix body) :
    2 ≤ radix ∧ radix ≤ 36 := by
  cases h with
  | marked h _ =>
    have hall : ∀ m ∈ marks, 2 ≤ m.2 ∧ m.2 ≤ 36 := by decide
    exact hall _ h
  | octal _ _ => decide
  | decimal _ => decide

namespace Octets

theorem unsigned_iff {cs rest : List Char} : Unsigned cs rest ↔ dropPlus cs = rest := by
  constructor
  · intro h
    cases h with
    | plus cs => rfl
    | bare h =>
      unfold dropPlus
      split
      · exact absurd rfl h
      · rfl
  · rintro rfl
    unfold dropPlus
    split
    · exact .plus _
    · rename_i hplus
      refine .bare fun h => ?_
      obtain ⟨ds, rfl⟩ := List.head?_eq_some_iff.mp h
      exact hplus ds rfl

theorem selects_splitMark (cs : List Char) :
    Selects cs (splitMark cs).1.toNat (splitMark cs).2 := by
  unfold splitMark
  split
  · rename_i c cs
    split
    · rename_i hx
      exact .marked (isMark_iff.mpr (.inl ⟨hx, rfl⟩)) cs
    · split
      · rename_i ho
        exact .marked (isMark_iff.mpr (.inr (.inl ⟨ho, rfl⟩))) cs
      · split
        · rename_i hb
          exact .marked (isMark_iff.mpr (.inr (.inr ⟨hb, rfl⟩))) cs
        · rename_i hx ho hb
          refine .octal (fun radix hmark => ?_) cs
          rcases isMark_iff.mp hmark with ⟨h, _⟩ | ⟨h, _⟩ | ⟨h, _⟩
          · exact hx h
          · exact ho h
          · exact hb h
  · rename_i hzero
    refine .decimal ?_
    cases cs with
    | nil => exact .inr (by simp)
    | cons c cs =>
      cases cs with
      | nil =>
        by_cases hc : c = '0'
        · exact .inl (by rw [hc])
        · exact .inr (by simpa using hc)
      | cons d cs =>
        refine .inr fun h => hzero d cs ?_
        rw [Option.some.inj h]

theorem splitMark_of_selects {cs body : List Char} {radix : Nat} (h : Selects cs radix body) :
    ∃ r : UInt8, splitMark cs = (r, body) ∧ r.toNat = radix := by
  cases h with
  | marked h cs =>
    simp only [IsMark, marks, List.mem_cons, List.not_mem_nil, Prod.mk.injEq, or_false] at h
    rcases h with ⟨rfl, rfl⟩ | ⟨rfl, rfl⟩ | ⟨rfl, rfl⟩ | ⟨rfl, rfl⟩ | ⟨rfl, rfl⟩ | ⟨rfl, rfl⟩
    · exact ⟨16, rfl, rfl⟩
    · exact ⟨16, rfl, rfl⟩
    · exact ⟨8, rfl, rfl⟩
    · exact ⟨8, rfl, rfl⟩
    · exact ⟨2, rfl, rfl⟩
    · exact ⟨2, rfl, rfl⟩
  | @octal c h cs =>
    have hx : ¬ (c = 'x' ∨ c = 'X') := fun hc => h 16 (isMark_iff.mpr (.inl ⟨hc, rfl⟩))
    have ho : ¬ (c = 'o' ∨ c = 'O') := fun hc => h 8 (isMark_iff.mpr (.inr (.inl ⟨hc, rfl⟩)))
    have hb : ¬ (c = 'b' ∨ c = 'B') := fun hc => h 2 (isMark_iff.mpr (.inr (.inr ⟨hc, rfl⟩)))
    refine ⟨8, ?_, rfl⟩
    rw [splitMark, if_neg hx, if_neg ho, if_neg hb]
  | decimal h =>
    refine ⟨10, splitMark_of_lead fun hzero => ?_, rfl⟩
    rcases h with h | h
    · exact h
    · exact absurd hzero h

end Octets

/-! ## 2. Literals -/

/-- The grammar, behind the sign: a mark that is no digit, the rest, and the number. -/
inductive Literal : List Char → List Char → Nat → Prop where
  /-- A mark, and digits of its radix. -/
  | marked {mark cs : List Char} {radix : Nat} {ds : List Nat} (hmark : IsMark mark radix)
      (h : Digits radix cs ds) (hne : ds ≠ []) : Literal mark cs (positional radix ds)
  /-- A `0`, and octal digits. -/
  | octal {cs : List Char} {ds : List Nat} (h : Digits 8 cs ds) (hne : ds ≠ []) :
      Literal [] ('0' :: cs) (positional 8 ds)
  /-- Decimal digits that do not start with `0`, or `0` alone. -/
  | decimal {cs : List Char} {ds : List Nat} (h : Digits 10 cs ds) (hne : ds ≠ [])
      (hlead : cs = ['0'] ∨ cs.head? ≠ some '0') : Literal [] cs (positional 10 ds)

/-- **Where digits are selected there is a literal**, and nowhere else. -/
theorem literal_iff_selects {rest : List Char} {n : Nat} :
    (∃ mark body, rest = mark ++ body ∧ Literal mark body n) ↔
      ∃ radix body ds, Selects rest radix body ∧ Digits radix body ds ∧ ds ≠ [] ∧
        positional radix ds = n := by
  constructor
  · rintro ⟨mark, body, rfl, h⟩
    cases h with
    | @marked _ _ radix ds hmark h hne => exact ⟨radix, body, ds, .marked hmark body, h, hne, rfl⟩
    | @octal cs ds h hne =>
      cases cs with
      | nil => exact absurd rfl (h.ne_nil hne)
      | cons c cs =>
        refine ⟨8, c :: cs, ds, .octal (fun radix hmark => ?_) cs, h, hne, rfl⟩
        -- no letter of a mark is an octal digit
        have hforeign : Foreign 8 c := by
          rcases isMark_iff.mp hmark with ⟨rfl | rfl, _⟩ | ⟨rfl | rfl, _⟩ | ⟨rfl | rfl, _⟩ <;> decide
        exact h.not_foreign c List.mem_cons_self hforeign
    | @decimal _ ds h hne hlead => exact ⟨10, body, ds, .decimal hlead, h, hne, rfl⟩
  · rintro ⟨radix, body, ds, hsel, h, hne, rfl⟩
    cases hsel with
    | @marked mark _ hmark _ => exact ⟨mark, body, rfl, .marked hmark h hne⟩
    | @octal c _ cs => exact ⟨[], '0' :: c :: cs, rfl, .octal h hne⟩
    | decimal hlead => exact ⟨[], _, rfl, .decimal h hne hlead⟩

/-- A literal starts with a digit or a separator. -/
theorem Literal.exists_cons {mark body : List Char} {n : Nat} (h : Literal mark body n) :
    ∃ c cs, mark ++ body = c :: cs ∧ ¬ Foreign 10 c := by
  cases h with
  | marked hmark _ _ =>
    have hall : ∀ m ∈ marks, m.1.head? = some '0' := by decide
    obtain ⟨cs, rfl⟩ := List.head?_eq_some_iff.mp (hall _ hmark)
    exact ⟨'0', cs ++ body, rfl, by decide⟩
  | octal _ _ => exact ⟨'0', _, rfl, by decide⟩
  | decimal h hne _ =>
    cases body with
    | nil => exact absurd rfl (h.ne_nil hne)
    | cons c cs => exact ⟨c, cs, rfl, h.not_foreign c List.mem_cons_self⟩

/-- With its sign or without, it is a text, and not a negative one. -/
theorem Literal.not_negative {cs mark body : List Char} {n : Nat} (h : Literal mark body n)
    (hsign : Unsigned cs (mark ++ body)) : cs ≠ [] ∧ cs.head? ≠ some '-' := by
  obtain ⟨c, rest, hcons, hc⟩ := h.exists_cons
  rw [hcons] at hsign
  cases hsign with
  | plus => exact ⟨List.cons_ne_nil _ _, by simp⟩
  | bare =>
    refine ⟨List.cons_ne_nil _ _, fun hneg => hc ?_⟩
    rw [Option.some.inj hneg]
    decide

/-- The sign in front of a literal is the only one. -/
theorem Literal.unsigned {sign mark body : List Char} {n : Nat} (h : Literal mark body n)
    (hsign : sign = [] ∨ sign = ['+']) : Unsigned (sign ++ (mark ++ body)) (mark ++ body) := by
  rcases hsign with rfl | rfl
  · obtain ⟨c, cs, hcons, hc⟩ := h.exists_cons
    refine .bare fun hplus => hc ?_
    rw [List.nil_append, hcons] at hplus
    rw [Option.some.inj hplus]
    decide
  · exact .plus _

/-! ## 3. Rules -/

namespace Octets

/-- What a text stands for as a literal, or why it is refused. -/
inductive LiteralVerdict : List Char → Except NumeralError Octets → Prop where
  /-- There has to be a text. -/
  | empty : LiteralVerdict [] (.error .empty)
  /-- There are no negative numbers. -/
  | negative (cs : List Char) : LiteralVerdict ('-' :: cs) (.error .negative)
  /-- One foreign character in the body spoils it. -/
  | badChar {cs rest body : List Char} {radix : Nat} {c : Char} (hne : cs ≠ [])
      (hneg : cs.head? ≠ some '-') (hsign : Unsigned cs rest) (hbody : Selects rest radix body)
      (hc : c ∈ body) (h : Foreign radix c) : LiteralVerdict cs (.error .badChar)
  /-- A body without digits is no numeral. -/
  | noDigits {cs rest body : List Char} {radix : Nat} (hne : cs ≠ [])
      (hneg : cs.head? ≠ some '-') (hsign : Unsigned cs rest) (hbody : Selects rest radix body)
      (h : ∀ c ∈ body, c = '_') : LiteralVerdict cs (.error .noDigits)
  /-- A literal stands for its number. -/
  | number {cs mark body : List Char} {n : Nat} {y : Octets} (hsign : Unsigned cs (mark ++ body))
      (h : Literal mark body n) (hlead : y.Canonical) (hval : y.value = n) :
      LiteralVerdict cs (.ok y)

/-- The rules leave no text out. -/
theorem LiteralVerdict.exists (cs : List Char) : ∃ r, LiteralVerdict cs r := by
  by_cases hne : cs = []
  · subst hne
    exact ⟨_, .empty⟩
  · by_cases hneg : cs.head? = some '-'
    · obtain ⟨ds, rfl⟩ := List.head?_eq_some_iff.mp hneg
      exact ⟨_, .negative ds⟩
    · have hsign : Unsigned cs (dropPlus cs) := unsigned_iff.mpr rfl
      have hbody := selects_splitMark (dropPlus cs)
      rcases digits_cases (splitMark (dropPlus cs)).1.toNat (splitMark (dropPlus cs)).2 with
        ⟨c, hc, hf⟩ | hseparators | ⟨ds, hds, hds0⟩
      · exact ⟨_, .badChar hne hneg hsign hbody hc hf⟩
      · exact ⟨_, .noDigits hne hneg hsign hbody hseparators⟩
      · obtain ⟨mark, body, hrest, hlit⟩ :=
          literal_iff_selects.mpr ⟨_, _, ds, hbody, hds, hds0, rfl⟩
        exact ⟨_, .number (hrest ▸ hsign) hlit (canonical_ofNat _) (value_ofNat _)⟩

/-- No size is too great, and every mark names a radix. -/
theorem LiteralVerdict.ne_overflow {cs : List Char} {r : Except NumeralError Octets}
    (h : LiteralVerdict cs r) : r ≠ .error .overflow ∧ r ≠ .error .badRadix := by
  cases h <;> simp

section

variable {text : String} {rest body : List Char} {radix : Nat}

/-- A text that is not negative is what its body is. -/
theorem readLiteral_of_selects (hne : text.toList ≠ []) (hneg : text.toList.head? ≠ some '-')
    (hsign : Unsigned text.toList rest) (hbody : Selects rest radix body) :
    ∃ r : UInt8, r.toNat = radix ∧ readLiteral text =
      if body = [] then .error .noDigits else readRadix (String.ofList body) r := by
  obtain ⟨r, hsplit, hr⟩ := splitMark_of_selects hbody
  refine ⟨r, hr, ?_⟩
  unfold readLiteral
  split
  · rename_i heq
    exact absurd heq hne
  · rename_i heq
    exact absurd (congrArg List.head? heq) hneg
  · rw [unsigned_iff.mp hsign, hsplit]
    cases body with
    | nil => rfl
    | cons c cs => rw [if_neg (List.cons_ne_nil c cs)]

theorem utf8ByteSize_body_le (hsign : Unsigned text.toList rest) (hbody : Selects rest radix body) :
    (String.ofList body).utf8ByteSize ≤ text.utf8ByteSize := by
  obtain ⟨sign, hrest⟩ : ∃ sign, text.toList = sign ++ rest := by
    generalize text.toList = cs at hsign
    cases hsign with
    | plus cs => exact ⟨['+'], rfl⟩
    | bare h => exact ⟨[], rfl⟩
  obtain ⟨mark, rfl⟩ : ∃ mark, rest = mark ++ body := by
    cases hbody with
    | @marked mark _ h cs => exact ⟨mark, rfl⟩
    | octal h cs => exact ⟨['0'], rfl⟩
    | decimal h => exact ⟨[], rfl⟩
  rw [← List.append_assoc] at hrest
  exact utf8ByteSize_ofList_le hrest

/-- The verdict on a body that is not empty is the verdict on the text. -/
theorem readLiteral_of_radixVerdict {r : Except NumeralError Octets} (hne : text.toList ≠ [])
    (hneg : text.toList.head? ≠ some '-') (hsize : text.utf8ByteSize ≤ Estimate.maxSize)
    (hsign : Unsigned text.toList rest) (hbody : Selects rest radix body) (hbody' : body ≠ [])
    (h : RadixVerdict radix body r) : readLiteral text = r := by
  obtain ⟨r', rfl, hread⟩ := readLiteral_of_selects hne hneg hsign hbody
  rw [hread, if_neg hbody']
  refine readRadix_of_verdict ((utf8ByteSize_body_le hsign hbody).trans hsize) ?_
  rwa [String.toList_ofList]

/-- **The reader follows every rule.** -/
theorem readLiteral_of_verdict {r : Except NumeralError Octets}
    (hsize : text.utf8ByteSize ≤ Estimate.maxSize) (h : LiteralVerdict text.toList r) :
    readLiteral text = r := by
  generalize htext : text.toList = cs at h
  cases h with
  | empty =>
    unfold readLiteral
    rw [htext]
  | negative cs =>
    unfold readLiteral
    rw [htext]
    rfl
  | badChar hne hneg hsign hbody hc h =>
    subst htext
    exact readLiteral_of_radixVerdict hne hneg hsize hsign hbody (List.ne_nil_of_mem hc)
      (.badChar hbody.radix_bounds hc h)
  | @noDigits _ rest body radix hne hneg hsign hbody h =>
    subst htext
    by_cases hempty : body = []
    · obtain ⟨r', _, hread⟩ := readLiteral_of_selects hne hneg hsign hbody
      rw [hread, if_pos hempty]
    · exact readLiteral_of_radixVerdict hne hneg hsize hsign hbody hempty
        (.noDigits hbody.radix_bounds hempty h)
  | @number _ mark body n y hsign h hlead hval =>
    subst htext
    obtain ⟨htext, hneg⟩ := h.not_negative hsign
    obtain ⟨radix, digits, ds, hbody, hds, hne, hn⟩ :=
      literal_iff_selects.mp ⟨mark, body, rfl, h⟩
    exact readLiteral_of_radixVerdict htext hneg hsize hsign hbody (hds.ne_nil hne)
      (.number hbody.radix_bounds hds hne hlead (hval.trans hn.symm))

theorem readLiteral_eq_iff_verdict {r : Except NumeralError Octets}
    (hsize : text.utf8ByteSize ≤ Estimate.maxSize) :
    readLiteral text = r ↔ LiteralVerdict text.toList r := by
  constructor
  · rintro rfl
    obtain ⟨r, hr⟩ := LiteralVerdict.exists text.toList
    rwa [readLiteral_of_verdict hsize hr]
  · exact readLiteral_of_verdict hsize

end

/-- **The literals are those of the grammar**, with the number that their digits stand for: of a
    text that memory can hold, the reader says what the rules say. -/
theorem readLiteral_decides (text : String) (hsize : text.utf8ByteSize ≤ Estimate.maxSize) :
    (∀ r, readLiteral text = r ↔ LiteralVerdict text.toList r) ∧
      readLiteral text ≠ .error .overflow ∧ readLiteral text ≠ .error .badRadix := by
  have hverdict := (readLiteral_eq_iff_verdict hsize).mp (rfl : readLiteral text = _)
  exact ⟨fun r => readLiteral_eq_iff_verdict hsize, hverdict.ne_overflow⟩

/-- A sign, a mark, a separator and letters in both cases. -/
theorem readLiteral_decides_marked :
    LiteralVerdict "+0x_1fF".toList (.ok ⟨[1, 255]⟩) ∧ readLiteral "+0x_1fF" = .ok ⟨[1, 255]⟩ := by
  obtain ⟨hrules, -⟩ := readLiteral_decides "+0x_1fF" (by decide)
  have hmark : IsMark ['0', 'x'] 16 := by decide
  have hdigits : Digits 16 ['_', '1', 'f', 'F'] [1, 15, 15] :=
    .separator (.digit (by decide) (.digit (by decide) (.digit (by decide) .nil)))
  have hsign : Unsigned "+0x_1fF".toList (['0', 'x'] ++ ['_', '1', 'f', 'F']) :=
    .plus ['0', 'x', '_', '1', 'f', 'F']
  have hverdict : LiteralVerdict "+0x_1fF".toList (.ok ⟨[1, 255]⟩) :=
    .number hsign (.marked hmark hdigits (by decide)) (by decide) rfl
  exact ⟨hverdict, (hrules _).mpr hverdict⟩

end Octets

/-! ## 4. Separators -/

/-- One separator more, somewhere behind a digit of the literal. The `0` of a mark is no digit; the
    first `0` of an octal literal without a mark is one. -/
inductive SeparatorAdded : List Char → List Char → Prop where
  | intro {sign mark before after : List Char} {n : Nat} (hsign : sign = [] ∨ sign = ['+'])
      (h : Literal mark (before ++ after) n) (hdigit : ∃ c ∈ before, c ≠ '_') :
      SeparatorAdded (sign ++ (mark ++ (before ++ after)))
        (sign ++ (mark ++ (before ++ '_' :: after)))

/-- The grammar allows it, but for the literal `0`. -/
theorem Literal.insert {mark before after : List Char} {n : Nat}
    (h : Literal mark (before ++ after) n) (hne : before ≠ [])
    (hzero : mark ++ (before ++ after) ≠ ['0']) : Literal mark (before ++ '_' :: after) n := by
  have hinsert : ∀ {radix ds}, Digits radix (before ++ after) ds →
      Digits radix (before ++ '_' :: after) ds := fun hds => hds.append_congr fun _ => .separator
  generalize hbody : before ++ after = body at h
  cases h with
  | marked hmark h hne => exact .marked hmark (hinsert (hbody ▸ h)) hne
  | @octal cs ds h hds =>
    -- the first `0` stands in front of the separator
    cases before with
    | nil => exact absurd rfl hne
    | cons c before =>
      obtain ⟨rfl, rfl⟩ := List.cons.inj hbody
      exact .octal (h.append_congr fun _ => .separator) hds
  | decimal h hds hlead =>
    subst hbody
    refine .decimal (hinsert h) hds (.inr ?_)
    rcases hlead with hlead | hlead
    · exact absurd hlead hzero
    · cases before with
      | nil => exact absurd rfl hne
      | cons c before => exact hlead

namespace Octets

theorem readLiteral_of_literal {text : String} {sign mark body : List Char} {n : Nat}
    (hsize : text.utf8ByteSize ≤ Estimate.maxSize) (hsign : sign = [] ∨ sign = ['+'])
    (htext : text.toList = sign ++ (mark ++ body)) (h : Literal mark body n) :
    readLiteral text = .ok (ofNat n) := by
  refine readLiteral_of_verdict hsize (.number ?_ h (canonical_ofNat n) (value_ofNat n))
  rw [htext]
  exact h.unsigned hsign

/-- Two texts are `0` behind their sign. -/
theorem unsigned_zero_iff {text : String} {rest : List Char} (h : Unsigned text.toList rest) :
    rest = ['0'] ↔ text = "0" ∨ text = "+0" := by
  constructor
  · rintro rfl
    generalize htext : text.toList = cs at h
    cases h with
    | plus => exact .inr (String.toList_injective htext)
    | bare => exact .inl (String.toList_injective htext)
  · rintro (rfl | rfl)
    · exact (unsigned_iff.mp h).symm
    · exact (unsigned_iff.mp h).symm

/-- A separator makes a text longer. -/
theorem utf8ByteSize_insert_le {text text' : String} {front after : List Char}
    (h : text.toList = front ++ after) (h' : text'.toList = front ++ '_' :: after) :
    text.utf8ByteSize ≤ text'.utf8ByteSize := by
  have htext : text = String.ofList front ++ String.ofList after := by
    rw [← String.ofList_append, ← h, String.ofList_toList]
  have htext' : text' = String.ofList front ++ String.ofList ('_' :: after) := by
    rw [← String.ofList_append, ← h', String.ofList_toList]
  have hcons : (String.ofList ('_' :: after)).toList = ['_'] ++ after := String.toList_ofList
  rw [htext, htext', String.utf8ByteSize_append, String.utf8ByteSize_append]
  exact Nat.add_le_add_left (utf8ByteSize_ofList_le hcons) _

/-- **A separator behind a digit changes nothing**, but for the literal `0`, where it is taken for
    the digits of an octal literal that has none. -/
theorem readLiteral_insert_separator {text text' : String} {y : Octets}
    (h : readLiteral text = .ok y) (hadd : SeparatorAdded text.toList text'.toList)
    (hsize : text'.utf8ByteSize ≤ Estimate.maxSize) :
    readLiteral text' = if text = "0" ∨ text = "+0" then .error .noDigits else .ok y := by
  generalize htext : text.toList = cs at hadd
  generalize htext' : text'.toList = cs' at hadd
  cases hadd with
  | @intro sign mark before after n hsign hlit hdigit =>
    obtain ⟨c, hc, -⟩ := hdigit
    have hne : before ≠ [] := List.ne_nil_of_mem hc
    have hunsigned : Unsigned text.toList (mark ++ (before ++ after)) := htext ▸ hlit.unsigned hsign
    by_cases hzero : mark ++ (before ++ after) = ['0']
    · rw [if_pos ((unsigned_zero_iff hunsigned).mp hzero)]
      obtain ⟨rfl, rfl, rfl⟩ : mark = [] ∧ before = ['0'] ∧ after = [] := by
        rcases List.append_eq_singleton_iff.mp hzero with ⟨hmark, hbody⟩ | ⟨_, hbody⟩
        · rcases List.append_eq_singleton_iff.mp hbody with ⟨hnil, _⟩ | hboth
          · exact absurd hnil hne
          · exact ⟨hmark, hboth⟩
        · exact absurd (List.append_eq_nil_iff.mp hbody).1 hne
      rcases hsign with rfl | rfl
      · rw [show text' = "0_" from String.toList_injective htext']
        rfl
      · rw [show text' = "+0_" from String.toList_injective htext']
        rfl
    · rw [if_neg fun htwo => hzero ((unsigned_zero_iff hunsigned).mpr htwo)]
      have hfront : text.toList = (sign ++ (mark ++ before)) ++ after := by
        rw [htext, List.append_assoc, List.append_assoc]
      have hfront' : text'.toList = (sign ++ (mark ++ before)) ++ '_' :: after := by
        rw [htext', List.append_assoc, List.append_assoc]
      have hle := utf8ByteSize_insert_le hfront hfront'
      rw [← h, readLiteral_of_literal (hle.trans hsize) hsign htext hlit]
      exact readLiteral_of_literal hsize hsign htext' (hlit.insert hne hzero)

/-- A separator behind the `0` that stands for octal. -/
theorem readLiteral_insert_separator_octal :
    readLiteral "017" = .ok ⟨[15]⟩ ∧ readLiteral "0_17" = .ok ⟨[15]⟩ := by
  have hread : readLiteral "017" = .ok ⟨[15]⟩ := rfl
  have hdigits : Digits 8 ['1', '7'] [1, 7] := .digit (by decide) (.digit (by decide) .nil)
  have hlit : Literal [] (['0'] ++ ['1', '7']) (positional 8 [1, 7]) := .octal hdigits (by decide)
  have hadd : SeparatorAdded "017".toList "0_17".toList :=
    .intro (.inl rfl) hlit ⟨'0', List.mem_cons_self, by decide⟩
  exact ⟨hread, readLiteral_insert_separator hread hadd (by decide)⟩

/-- The literal `0` with a separator behind it is refused. -/
theorem readLiteral_zero_separator :
    SeparatorAdded "0".toList "0_".toList ∧ readLiteral "0" = .ok ⟨[]⟩ ∧
      readLiteral "0_" = .error .noDigits := by
  have hdigits : Digits 10 ['0'] [0] := .digit (by decide) .nil
  have hlit : Literal [] (['0'] ++ []) (positional 10 [0]) :=
    .decimal hdigits (by decide) (.inl rfl)
  exact ⟨.intro (.inl rfl) hlit ⟨'0', List.mem_cons_self, by decide⟩, rfl, rfl⟩

end Octets

end Tribase
