import Tribase.Numeral.Placement
import Tribase.Proofs.Numeral.Reading
import Tribase.Proofs.Numeral.Written

/-!
# Literals that read back

What is written is read back, wherever it still looks like a literal: the decimal numeral as it is,
the other numerals with their mark, and zeros for padding only behind the mark.

* `Octets.Rendering x text`: the text is one of the forms of `x` that are literals;
* `readLiteral_marked`, `readLiteral_decimal`: how a literal with and without a mark is read;
* **`readLiteral_rendering`**: each rendering is read as the octet string without leading zeros.
-/

namespace Tribase

/-! ## 1. Fields -/

namespace Placement

/-- Sign and mark, in front of the digits. -/
def front (f : Placement) (mark : String) : List Char :=
  (if f.plus then ['+'] else []) ++ (if f.mark then mark.toList else [])

/-- The field without a least width. -/
def narrow (f : Placement) : Placement :=
  { f with width := 0 }

/-- **The parts of a field**: filling, sign and mark, zeros, digits, filling. Together they take the
    room that is left, and where zeros are asked for there is no other filling. -/
theorem toList_layOut (f : Placement) (mark digits : String) :
    ∃ before zeros after, (f.layOut mark digits).toList =
        List.replicate before f.fill ++ f.front mark ++ (List.replicate zeros '0' ++ digits.toList) ++
          List.replicate after f.fill ∧
      before + zeros + after = f.width - ((f.front mark).length + digits.length) ∧
      (f.zeros = true → before = 0 ∧ after = 0) := by
  by_cases hzeros : f.zeros = true
  · refine ⟨0, f.width - ((f.front mark).length + digits.length), 0, ?_, by omega, fun _ => ⟨rfl, rfl⟩⟩
    unfold layOut
    rw [if_pos hzeros, String.toList_ofList, List.append_assoc]
    exact (List.append_nil _).symm
  · -- the alignment decides how the room is shared out
    obtain ⟨before, hle, htext⟩ : ∃ before,
        before ≤ f.width - ((f.front mark).length + digits.length) ∧
        (f.layOut mark digits).toList =
          List.replicate before f.fill ++ f.front mark ++ digits.toList ++
            List.replicate (f.width - ((f.front mark).length + digits.length) - before) f.fill := by
      unfold layOut
      rw [if_neg hzeros]
      cases f.align with
      | left => exact ⟨_, Nat.zero_le _, String.toList_ofList⟩
      | center => exact ⟨_, Nat.div_le_self _ 2, String.toList_ofList⟩
      | right => exact ⟨_, Nat.le_refl _, String.toList_ofList⟩
    exact ⟨before, 0, _, htext, by omega, fun h => absurd h hzeros⟩

/-- A field without a least width holds its text and nothing else. -/
theorem toList_layOut_narrow (f : Placement) (mark digits : String) :
    (f.narrow.layOut mark digits).toList = f.front mark ++ digits.toList := by
  obtain ⟨before, zeros, after, htext, hroom, _⟩ := f.narrow.toList_layOut mark digits
  have hnone : before + zeros + after = 0 := hroom.trans (Nat.zero_sub _)
  obtain ⟨rfl, rfl, rfl⟩ : before = 0 ∧ zeros = 0 ∧ after = 0 := by omega
  rw [htext]
  exact List.append_nil _

/-- Where zeros are the filling, or where there is nothing to fill, nothing but zeros stands between
    sign or mark and the digits; in the second case not even these. -/
theorem toList_layOut_of_zeros {f : Placement} {mark digits : String}
    (h : f.zeros = true ∨ f.width ≤ (f.narrow.layOut mark digits).length) :
    ∃ zeros, (f.layOut mark digits).toList =
        f.front mark ++ (List.replicate zeros '0' ++ digits.toList) ∧
      (f.width ≤ (f.narrow.layOut mark digits).length → zeros = 0) := by
  obtain ⟨before, zeros, after, htext, hroom, hzeros⟩ := f.toList_layOut mark digits
  have hwidth : f.width ≤ (f.narrow.layOut mark digits).length →
      before = 0 ∧ zeros = 0 ∧ after = 0 := by
    intro hle
    rw [← String.length_toList, toList_layOut_narrow, List.length_append,
      String.length_toList] at hle
    omega
  have hside : before = 0 ∧ after = 0 := by
    rcases h with h | h
    · exact hzeros h
    · exact ⟨(hwidth h).1, (hwidth h).2.2⟩
  refine ⟨zeros, ?_, fun hle => (hwidth hle).2.1⟩
  rw [htext, hside.1, hside.2]
  exact List.append_nil _

end Placement

namespace Octets

/-! ## 2. Literals with and without a mark -/

section

variable {text : String} {sign cs : List Char}

/-- An optional plus sign is passed over, and the rest decides. -/
theorem readLiteral_eq_readRadix {c : Char} {radix : UInt8} {digits : List Char}
    (hsign : sign = [] ∨ sign = ['+']) (htext : text.toList = sign ++ c :: cs)
    (hplus : c ≠ '+') (hminus : c ≠ '-') (hsplit : splitMark (c :: cs) = (radix, digits))
    (hne : digits ≠ []) : readLiteral text = readRadix (String.ofList digits) radix := by
  have hdrop : dropPlus text.toList = c :: cs := by
    rw [htext]
    rcases hsign with rfl | rfl
    · unfold dropPlus
      split
      · rename_i heq
        cases heq
        exact absurd rfl hplus
      · rfl
    · rfl
  unfold readLiteral
  split
  · rename_i heq
    rw [htext] at heq
    exact absurd heq (by simp)
  · rename_i heq
    rw [htext] at heq
    rcases hsign with rfl | rfl
    · cases heq
      exact absurd rfl hminus
    · cases heq
  · rw [hdrop, hsplit]
    cases digits with
    | nil => exact absurd rfl hne
    | cons d ds => rfl

theorem utf8ByteSize_ofList_le {digits front : List Char} (htext : text.toList = front ++ digits) :
    (String.ofList digits).utf8ByteSize ≤ text.utf8ByteSize := by
  have h : text = String.ofList front ++ String.ofList digits := by
    rw [← String.ofList_append, ← htext, String.ofList_toList]
  rw [h, String.utf8ByteSize_append]
  exact Nat.le_add_left _ _

/-- A mark, and digits of its radix. -/
theorem readLiteral_marked {letter : Char} {radix : UInt8} {digits : List Char} {n : Nat}
    (hradix : Estimate.isRadix radix.toNat = true)
    (hsplit : ∀ ds, splitMark ('0' :: letter :: ds) = (radix, ds))
    (hsign : sign = [] ∨ sign = ['+']) (htext : text.toList = sign ++ '0' :: letter :: digits)
    (hsize : text.utf8ByteSize ≤ Estimate.maxSize) (hne : digits ≠ [])
    (hval : numeralValue? radix.toNat digits = some n) : readLiteral text = .ok (ofNat n) := by
  have hfront : text.toList = (sign ++ ['0', letter]) ++ digits := by
    rw [htext, List.append_assoc]
    rfl
  rw [readLiteral_eq_readRadix hsign htext (by decide) (by decide) (hsplit digits) hne]
  refine readRadix_of_numeralValue? hradix ((utf8ByteSize_ofList_le hfront).trans hsize) ?_ ?_
  · rwa [String.toList_ofList]
  · rwa [String.toList_ofList]

/-- Without a `0` in front, but for `0` alone, there is no mark and the radix is ten. -/
theorem splitMark_of_lead (h : cs.head? = some '0' → cs = ['0']) : splitMark cs = (10, cs) := by
  unfold splitMark
  split
  · cases h rfl
  · rfl

/-- The shortest decimal spelling is read in the radix ten. -/
theorem readLiteral_decimal {n : Nat} (hsign : sign = [] ∨ sign = ['+'])
    (htext : text.toList = sign ++ cs) (hsize : text.utf8ByteSize ≤ Estimate.maxSize)
    (h : Shortest 10 n cs) : readLiteral text = .ok (ofNat n) := by
  have hlower := h.spells.mem_lower (by decide)
  have hval := h.spells.numeralValue? (by decide)
  cases cs with
  | nil => exact absurd rfl h.ne_nil
  | cons c cs =>
    have hc : c ∈ "0123456789abcdef".toList := hlower c List.mem_cons_self
    have hplus : c ≠ '+' := fun e => absurd (e ▸ hc) (by decide)
    have hminus : c ≠ '-' := fun e => absurd (e ▸ hc) (by decide)
    rw [readLiteral_eq_readRadix hsign htext hplus hminus (splitMark_of_lead h.lead) h.ne_nil]
    refine readRadix_of_numeralValue? (by decide) ((utf8ByteSize_ofList_le htext).trans hsize) ?_ ?_
    · rw [String.toList_ofList]
      exact h.ne_nil
    · rw [String.toList_ofList]
      exact hval

/-- A numeral with its mark in a field that it fills, or that zeros fill. -/
theorem readLiteral_layOut {f : Placement} {letter : Char} {radix : UInt8} {mark digits : String}
    {n : Nat} (hradix : Estimate.isRadix radix.toNat = true)
    (hsplit : ∀ ds, splitMark ('0' :: letter :: ds) = (radix, ds))
    (hletter : mark.toList = ['0', letter]) (hmark : f.mark = true)
    (hfield : f.zeros = true ∨ f.width ≤ (f.narrow.layOut mark digits).length)
    (hsize : (f.layOut mark digits).utf8ByteSize ≤ Estimate.maxSize) (hne : digits.toList ≠ [])
    (hval : numeralValue? radix.toNat digits.toList = some n) :
    readLiteral (f.layOut mark digits) = .ok (ofNat n) := by
  obtain ⟨zeros, htext, _⟩ := Placement.toList_layOut_of_zeros hfield
  have hval' := numeralValue?_replicate_zero_append (pos_of_isRadix hradix) zeros hval
  have hne' : List.replicate zeros '0' ++ digits.toList ≠ [] := fun e =>
    hne (List.append_eq_nil_iff.mp e).2
  rw [Placement.front, if_pos hmark, hletter, List.append_assoc] at htext
  cases hplus : f.plus with
  | false =>
    rw [hplus] at htext
    exact readLiteral_marked hradix hsplit (.inl rfl) htext hsize hne' hval'
  | true =>
    rw [hplus] at htext
    exact readLiteral_marked hradix hsplit (.inr rfl) htext hsize hne' hval'

end

/-! ## 3. Renderings -/

/-- The forms of an octet string that are literals. -/
inductive Rendering (x : Octets) : String → Prop where
  /-- The decimal numeral. -/
  | decimal : Rendering x x.decimal
  /-- The decimal numeral in a field that is no wider, with or without a plus sign. -/
  | plain (f : Placement) (hwidth : f.width ≤ (x.format .decimal f.narrow).length) :
      Rendering x (x.format .decimal f)
  /-- A numeral with its mark, in a field that is no wider or that is filled with zeros. -/
  | marked (style : Style) (hstyle : style = .lowerHex ∨ style = .upperHex ∨ style = .binary)
      (f : Placement) (hmark : f.mark = true)
      (hfield : f.zeros = true ∨ f.width ≤ (x.format style f.narrow).length) :
      Rendering x (x.format style f)
  /-- Every byte in hexadecimal, of which there is at least one. -/
  | hexadecimal (least : Nat) (hone : 1 ≤ max least x.length) : Rendering x (x.hexadecimal least)
  /-- Every byte in binary, of which there is at least one. -/
  | binary (least : Nat) (hone : 1 ≤ max least x.length) : Rendering x (x.binary least)

theorem splitMark_hex (ds : List Char) : splitMark ('0' :: 'x' :: ds) = (16, ds) := rfl

theorem splitMark_bin (ds : List Char) : splitMark ('0' :: 'b' :: ds) = (2, ds) := rfl

section

variable {x : Octets}

theorem readLiteral_plain {f : Placement} (hwidth : f.width ≤ (x.format .decimal f.narrow).length)
    (hsize : (x.format .decimal f).utf8ByteSize ≤ Estimate.maxSize) :
    readLiteral (x.format .decimal f) = .ok (ofNat x.value) := by
  obtain ⟨zeros, htext, hzeros⟩ := Placement.toList_layOut_of_zeros (.inr hwidth)
  rw [hzeros hwidth, Placement.front] at htext
  have hmark : (if f.mark then "".toList else []) = [] := by cases f.mark <;> rfl
  rw [hmark, List.append_nil] at htext
  refine readLiteral_decimal ?_ htext hsize x.shortest_decimal
  cases f.plus with
  | false => exact .inl rfl
  | true => exact .inr rfl

theorem readLiteral_style {style : Style} {f : Placement}
    (hstyle : style = .lowerHex ∨ style = .upperHex ∨ style = .binary) (hmark : f.mark = true)
    (hfield : f.zeros = true ∨ f.width ≤ (x.format style f.narrow).length)
    (hsize : (x.format style f).utf8ByteSize ≤ Estimate.maxSize) :
    readLiteral (x.format style f) = .ok (ofNat x.value) := by
  have hhex := x.shortest_hexDigits
  have hbin := x.shortest_bitDigits
  rcases hstyle with rfl | rfl | rfl
  · exact readLiteral_layOut (by decide) splitMark_hex (by decide) hmark hfield hsize hhex.ne_nil
      (hhex.spells.numeralValue? (by decide))
  · refine readLiteral_layOut (by decide) splitMark_hex (by decide) hmark hfield hsize ?_ ?_
    · rw [toList_upperHexDigits]
      exact fun e => hhex.ne_nil (List.map_eq_nil_iff.mp e)
    · rw [toList_upperHexDigits]
      exact hhex.spells.numeralValue?_toUpper (by decide)
  · exact readLiteral_layOut (by decide) splitMark_bin (by decide) hmark hfield hsize hbin.ne_nil
      (hbin.spells.numeralValue? (by decide))

theorem readLiteral_hexadecimal {least : Nat} (hone : 1 ≤ max least x.length)
    (hsize : (x.hexadecimal least).utf8ByteSize ≤ Estimate.maxSize) :
    readLiteral (x.hexadecimal least) = .ok (ofNat x.value) := by
  obtain ⟨digits, htext, hlen, hspells⟩ := x.fullWidth_hexadecimal least
  refine readLiteral_marked (by decide) splitMark_hex (.inl rfl) htext hsize ?_
    (hspells.numeralValue? (by decide))
  intro (hnil : digits = [])
  rw [hnil, List.length_nil] at hlen
  omega

theorem readLiteral_binary {least : Nat} (hone : 1 ≤ max least x.length)
    (hsize : (x.binary least).utf8ByteSize ≤ Estimate.maxSize) :
    readLiteral (x.binary least) = .ok (ofNat x.value) := by
  obtain ⟨digits, htext, hlen, hspells⟩ := x.fullWidth_binary least
  refine readLiteral_marked (by decide) splitMark_bin (.inl rfl) htext hsize ?_
    (hspells.numeralValue? (by decide))
  intro (hnil : digits = [])
  rw [hnil, List.length_nil] at hlen
  omega

end

/-- **Reading undoes every rendering**, of any text that memory can hold: what comes back is the
    octet string without its leading zeros. A mark with no byte after it has no digits. -/
theorem readLiteral_rendering (x : Octets) :
    (∀ text, Rendering x text → text.utf8ByteSize ≤ Estimate.maxSize →
      readLiteral text = .ok x.trim) ∧
    (x.length = 0 → readLiteral (x.hexadecimal 0) = .error .noDigits ∧
      readLiteral (x.binary 0) = .error .noDigits) := by
  constructor
  · intro text h hsize
    rw [trim_eq_ofNat]
    cases h with
    | decimal => exact readLiteral_decimal (.inl rfl) rfl hsize x.shortest_decimal
    | plain f hwidth => exact readLiteral_plain hwidth hsize
    | marked style hstyle f hmark hfield => exact readLiteral_style hstyle hmark hfield hsize
    | hexadecimal least hone => exact readLiteral_hexadecimal hone hsize
    | binary least hone => exact readLiteral_binary hone hsize
  · intro hlen
    obtain ⟨bytes⟩ := x
    obtain rfl : bytes = [] := List.eq_nil_of_length_eq_zero hlen
    exact ⟨rfl, rfl⟩

/-- Nine bits in three bytes, in upper case with a sign, a mark and zeros up to ten characters. -/
theorem readLiteral_rendering_padded :
    Rendering ⟨[0, 1, 255]⟩ "+0x00001FF" ∧ readLiteral "+0x00001FF" = .ok ⟨[1, 255]⟩ := by
  have h : Rendering ⟨[0, 1, 255]⟩ "+0x00001FF" :=
    .marked .upperHex (.inr (.inl rfl)) { plus := true, mark := true, zeros := true, width := 10 } rfl
      (.inl rfl)
  exact ⟨h, (readLiteral_rendering ⟨[0, 1, 255]⟩).1 _ h (by decide)⟩

end Octets

end Tribase
