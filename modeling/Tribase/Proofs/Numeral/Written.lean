import Tribase.Numeral.Write
import Tribase.Proofs.Octets.Value

/-!
# Written numerals

What the writers put down stands for the value of the octet string, digit by digit.

* `Spells radix n cs`: the characters are digits of the radix, in lower case, and stand for `n`;
* `Shortest radix n cs`: they do so without a leading `0`, but for `0` alone;
* `FullWidth radix mark count n cs`: a mark, and then `count` such digits;
* `Shortest.unique`, `FullWidth.unique`: there is one such spelling of each number;
* `spells_hexBytes`, `spells_bitBytes`: every byte is spelled by two, or by eight digits;
* **`shortest_decimal`**, `shortest_hexDigits`, `shortest_bitDigits`: the numerals without a mark.
-/

namespace Tribase

/-! ## 1. Spellings -/

/-- The characters are digits of the radix, in lower case, that stand for `n`. -/
def Spells (radix n : Nat) (cs : List Char) : Prop :=
  ∃ ds : List Nat, cs = ds.map Nat.digitChar ∧ (∀ d ∈ ds, d < radix) ∧ positional radix ds = n

/-- The shortest spelling: no `0` in front, but for `0` alone. -/
structure Shortest (radix n : Nat) (cs : List Char) : Prop where
  spells : Spells radix n cs
  ne_nil : cs ≠ []
  lead : cs.head? = some '0' → cs = ['0']

/-- The mark, and then `count` digits of the radix, in lower case, that stand for `n`. -/
def FullWidth (radix : Nat) (mark : List Char) (count n : Nat) (cs : List Char) : Prop :=
  ∃ digits, cs = mark ++ digits ∧ digits.length = count ∧ Spells radix n digits

namespace Spells

variable {radix n : Nat} {cs : List Char}

theorem numeralValue? (h : Spells radix n cs) (hr : radix ≤ 16) :
    numeralValue? radix cs = some n := by
  obtain ⟨ds, rfl, hds, rfl⟩ := h
  exact numeralValue?_map_digitChar hr hds

/-- Upper case letters are the same digits. -/
theorem numeralValue?_toUpper (h : Spells radix n cs) (hr : radix ≤ 16) :
    Tribase.numeralValue? radix (cs.map Char.toUpper) = some n := by
  obtain ⟨ds, rfl, hds, rfl⟩ := h
  exact numeralValue?_map_toUpper hr hds

/-- One spelling does not stand for two numbers. -/
theorem value_unique {m : Nat} (hn : Spells radix n cs) (hm : Spells radix m cs)
    (hr : radix ≤ 16) : n = m :=
  Option.some.inj ((hn.numeralValue? hr).symm.trans (hm.numeralValue? hr))

theorem mem_lower (h : Spells radix n cs) (hr : radix ≤ 16) :
    ∀ c ∈ cs, c ∈ "0123456789abcdef".toList := by
  obtain ⟨ds, rfl, hds, _⟩ := h
  intro c hc
  obtain ⟨d, hd, rfl⟩ := List.mem_map.mp hc
  have hall : ∀ d < 16, Nat.digitChar d ∈ "0123456789abcdef".toList := by decide
  exact hall d (Nat.lt_of_lt_of_le (hds d hd) hr)

end Spells

/-- Of the written digits, only zero is written `0`. -/
theorem digitChar_eq_zero_iff {d : Nat} (hd : d < 16) : Nat.digitChar d = '0' ↔ d = 0 := by
  have hall : ∀ d < 16, Nat.digitChar d = '0' ↔ d = 0 := by decide
  exact hall d hd

theorem dropWhile_map_digitChar {ds : List Nat} (h : ∀ d ∈ ds, d < 16) :
    (ds.map Nat.digitChar).dropWhile (· == '0') = (ds.dropWhile (· == 0)).map Nat.digitChar := by
  induction ds with
  | nil => rfl
  | cons d ds ih =>
    have hd := digitChar_eq_zero_iff (h d List.mem_cons_self)
    have ih' := ih fun e he => h e (List.mem_cons_of_mem d he)
    by_cases hz : d = 0
    · subst hz
      exact ih'
    · have hc : Nat.digitChar d ≠ '0' := fun e => hz (hd.mp e)
      rw [List.map_cons, List.dropWhile_cons_of_neg (by simpa using hc),
        List.dropWhile_cons_of_neg (by simpa using hz), List.map_cons]

/-- **The significant digits are the shortest spelling.** -/
theorem Spells.significant {radix n : Nat} {cs : List Char} (h : Spells radix n cs)
    (hr : radix ≤ 16) (hpos : 0 < radix) : Shortest radix n (Octets.significant cs) := by
  obtain ⟨ds, rfl, hds, rfl⟩ := h
  have h16 : ∀ d ∈ ds, d < 16 := fun d hd => Nat.lt_of_lt_of_le (hds d hd) hr
  have hval := positional_dropWhile_zero radix ds
  have hlead := noLeadingZero_dropWhile ds
  have hsub : ∀ d ∈ ds.dropWhile (· == 0), d < radix := fun d hd =>
    hds d (List.dropWhile_sublist _ |>.subset hd)
  unfold Octets.significant
  rw [dropWhile_map_digitChar h16]
  cases hes : ds.dropWhile (· == 0) with
  | nil =>
    rw [hes] at hval
    refine ⟨⟨[0], rfl, ?_, ?_⟩, by simp, fun _ => rfl⟩
    · intro d hd
      rw [List.mem_singleton.mp hd]
      exact hpos
    · rw [positional_singleton, ← hval, positional_nil]
  | cons e es =>
    rw [hes] at hval hlead hsub
    refine ⟨⟨e :: es, rfl, hsub, hval⟩, by simp, fun h0 => ?_⟩
    have he : e < 16 := Nat.lt_of_lt_of_le (hsub e List.mem_cons_self) hr
    have he0 : e = 0 := (digitChar_eq_zero_iff he).mp (Option.some.inj h0)
    exact absurd (by rw [he0]; rfl) hlead

namespace Shortest

variable {radix n : Nat} {cs cs' : List Char}

/-- A shortest spelling is `0`, or its first digit is another one. -/
theorem eq_zero_or_lead (h : Shortest radix n cs) :
    n = 0 ∧ cs = ['0'] ∨ 0 < n ∧ ∃ ds : List Nat, cs = ds.map Nat.digitChar ∧
      (∀ d ∈ ds, d < radix) ∧ NoLeadingZero ds ∧ positional radix ds = n := by
  obtain ⟨⟨ds, rfl, hds, rfl⟩, hne, hlead⟩ := h
  cases ds with
  | nil => exact absurd rfl hne
  | cons d ds =>
    by_cases hd : d = 0
    · subst hd
      obtain rfl : ds = [] := List.map_eq_nil_iff.mp (List.cons.inj (hlead rfl)).2
      exact .inl ⟨positional_singleton radix 0, rfl⟩
    · have hradix : 0 < radix := Nat.zero_lt_of_lt (hds d List.mem_cons_self)
      have hpos := Nat.lt_of_lt_of_le (Nat.pow_pos hradix) (le_positional_cons hd ds)
      exact .inr ⟨hpos, d :: ds, rfl, hds, fun hz => hd (Option.some.inj hz), rfl⟩

/-- **A number has one shortest spelling.** -/
theorem unique (h : Shortest radix n cs) (h' : Shortest radix n cs') (hr : 1 < radix) : cs = cs' := by
  rcases h.eq_zero_or_lead with ⟨rfl, rfl⟩ | ⟨hpos, ds, rfl, hds, hlead, hval⟩
  · rcases h'.eq_zero_or_lead with ⟨_, rfl⟩ | ⟨hpos, _⟩
    · rfl
    · exact absurd hpos (Nat.lt_irrefl 0)
  · rcases h'.eq_zero_or_lead with ⟨rfl, _⟩ | ⟨_, es, rfl, hes, hlead', hval'⟩
    · exact absurd hpos (Nat.lt_irrefl 0)
    · -- neither has more digits than the number needs
      have hle := length_le_of_positional_lt hr hlead (hval.trans_lt (hval' ▸ positional_lt hes))
      have hge := length_le_of_positional_lt hr hlead' (hval'.trans_lt (hval ▸ positional_lt hds))
      rw [eq_of_positional_eq_of_length (Nat.le_antisymm hle hge) hds hes (hval.trans hval'.symm)]

/-- **A number below `radix ^ k` takes at most `k` digits**, and at least one. -/
theorem length_le {k : Nat} (h : Shortest radix n cs) (hr : 1 < radix) (hk : 1 ≤ k)
    (hlt : n < radix ^ k) : cs.length ≤ k := by
  rcases h.eq_zero_or_lead with ⟨_, rfl⟩ | ⟨_, ds, rfl, _, hlead, hval⟩
  · exact hk
  · rw [List.length_map]
    exact length_le_of_positional_lt hr hlead (hval.trans_lt hlt)

end Shortest

/-- Spellings of one length are the same digits. -/
theorem Spells.eq_of_length {radix n : Nat} {cs cs' : List Char} (h : Spells radix n cs)
    (h' : Spells radix n cs') (hlen : cs.length = cs'.length) : cs = cs' := by
  obtain ⟨ds, rfl, hds, hval⟩ := h
  obtain ⟨es, rfl, hes, hval'⟩ := h'
  rw [List.length_map, List.length_map] at hlen
  rw [eq_of_positional_eq_of_length hlen hds hes (hval.trans hval'.symm)]

theorem FullWidth.unique {radix count n : Nat} {mark cs cs' : List Char}
    (h : FullWidth radix mark count n cs) (h' : FullWidth radix mark count n cs') : cs = cs' := by
  obtain ⟨digits, rfl, hlen, hspells⟩ := h
  obtain ⟨digits', rfl, hlen', hspells'⟩ := h'
  rw [hspells.eq_of_length hspells' (hlen.trans hlen'.symm)]

/-! ## 2. Hexadecimal and binary -/

/-- The two hexadecimal digits of a number below 256. -/
def hexPair (d : Nat) : List Nat :=
  [d / 16, d % 16]

/-- The eight binary digits of a number below 256. -/
def bitOctet (d : Nat) : List Nat :=
  (List.range 8).map fun i => (d.testBit (7 - i)).toNat

theorem positional_hexPair (d : Nat) : positional 16 (hexPair d) = d := by
  simp only [hexPair, positional, List.foldl_cons, List.foldl_nil]
  omega

theorem positional_bitOctet {d : Nat} (hd : d < 256) : positional 2 (bitOctet d) = d := by
  have hall : ∀ d < 256, positional 2 (bitOctet d) = d := by decide +kernel
  exact hall d hd

namespace Octets

theorem hexByte_eq (b : UInt8) : hexByte b = (hexPair b.toNat).map Nat.digitChar := rfl

theorem bitByte_eq (b : UInt8) : bitByte b = (bitOctet b.toNat).map Nat.digitChar := by
  rw [bitByte, bitOctet, List.map_map]
  refine List.map_congr_left fun i _ => ?_
  show _ = Nat.digitChar (b.toNat.testBit (7 - i)).toNat
  cases b.toNat.testBit (7 - i) <;> rfl

/-- Bytes that are spelled one by one spell the value. -/
theorem spells_flatMap {radix k : Nat} {write : UInt8 → List Char} {spell : Nat → List Nat}
    (hk : radix ^ k = 256) (hwrite : ∀ b, write b = (spell b.toNat).map Nat.digitChar)
    (hlen : ∀ d, (spell d).length = k) (hlt : ∀ d < 256, ∀ e ∈ spell d, e < radix)
    (hval : ∀ d < 256, positional radix (spell d) = d) (x : Octets) :
    Spells radix x.value (x.bytes.flatMap write) ∧ (x.bytes.flatMap write).length = k * x.length := by
  have hflat : x.bytes.flatMap write =
      ((x.bytes.map UInt8.toNat).flatMap spell).map Nat.digitChar := by
    rw [List.map_flatMap, List.flatMap_map]
    exact congrArg (x.bytes.flatMap ·) (funext hwrite)
  have hbyte := Byte.toNat_lt_of_mem_map x.bytes
  obtain ⟨hpos, hcount⟩ := positional_flatMap (fun d _ => hlen d) fun d hd => hval d (hbyte d hd)
  refine ⟨⟨(x.bytes.map UInt8.toNat).flatMap spell, hflat, ?_, ?_⟩, ?_⟩
  · intro e he
    obtain ⟨d, hd, hde⟩ := List.mem_flatMap.mp he
    exact hlt d (hbyte d hd) e hde
  · rw [hpos, hk, ← Byte.valueHigh_eq_positional]
    rfl
  · rw [hflat, List.length_map, hcount, List.length_map]
    rfl

theorem spells_hexBytes (x : Octets) :
    Spells 16 x.value x.hexBytes ∧ x.hexBytes.length = 2 * x.length := by
  refine spells_flatMap (by decide) hexByte_eq (fun _ => rfl) ?_ (fun d _ => positional_hexPair d) x
  intro d hd e he
  rcases List.mem_cons.mp he with rfl | he
  · omega
  · rw [List.mem_singleton.mp he]
    omega

theorem spells_bitBytes (x : Octets) :
    Spells 2 x.value x.bitBytes ∧ x.bitBytes.length = 8 * x.length := by
  refine spells_flatMap (by decide) bitByte_eq (fun _ => rfl) ?_ (fun _ => positional_bitOctet) x
  intro d _ e he
  obtain ⟨i, _, rfl⟩ := List.mem_map.mp he
  exact Bool.toNat_lt _

theorem fullWidth_hexadecimal (x : Octets) (least : Nat) :
    FullWidth 16 ['0', 'x'] (2 * max least x.length) x.value (x.hexadecimal least).toList := by
  obtain ⟨hspells, hlen⟩ := (x.zeroExtend least).spells_hexBytes
  rw [value_zeroExtend] at hspells
  rw [length_zeroExtend, Nat.max_comm] at hlen
  exact ⟨_, String.toList_ofList, hlen, hspells⟩

theorem fullWidth_binary (x : Octets) (least : Nat) :
    FullWidth 2 ['0', 'b'] (8 * max least x.length) x.value (x.binary least).toList := by
  obtain ⟨hspells, hlen⟩ := (x.zeroExtend least).spells_bitBytes
  rw [value_zeroExtend] at hspells
  rw [length_zeroExtend, Nat.max_comm] at hlen
  exact ⟨_, String.toList_ofList, hlen, hspells⟩

theorem shortest_hexDigits (x : Octets) : Shortest 16 x.value x.hexDigits.toList := by
  have h := (x.trim.spells_hexBytes).1.significant (by decide) (by decide)
  rwa [value_trim, ← String.toList_ofList (l := Octets.significant _)] at h

theorem shortest_bitDigits (x : Octets) : Shortest 2 x.value x.bitDigits.toList := by
  have h := x.spells_bitBytes.1.significant (by decide) (by decide)
  rwa [← String.toList_ofList (l := Octets.significant _)] at h

theorem toList_upperHexDigits (x : Octets) :
    x.upperHexDigits.toList = x.hexDigits.toList.map Char.toUpper := by
  rw [upperHexDigits, hexDigits, String.toList_ofList, String.toList_ofList]

end Octets

/-! ## 3. Decimal -/

/-- Where a byte is left behind the leading zeros, the number is not zero. -/
theorem Byte.valueHigh_pos_of_dropWhile {bytes rest : List UInt8} {top : UInt8}
    (h : bytes.dropWhile (· == 0) = top :: rest) : 0 < valueHigh bytes := by
  have htop := List.head?_dropWhile_not (· == 0) bytes
  rw [h] at htop
  rw [← valueHigh_dropWhile_zero, h]
  exact valueHigh_pos (by simpa using htop) rest

/-- The remainder of one division stays below the divisor. -/
theorem Byte.divide_snd_lt {div rem : UInt8} (h : rem < div) (x : UInt8) :
    (divide rem x div).2 < div := by
  have hlt : rem.toNat < div.toNat := h
  have hmod : (rem.toNat * 256 + x.toNat) % div.toNat < div.toNat := Nat.mod_lt _ (by omega)
  rw [UInt8.lt_iff_toNat_lt, divide, UInt8.toNat_ofNat_of_lt' (hmod.trans div.toNat_lt)]
  exact hmod

/-- So does that of a long division. -/
theorem Byte.longDivide_snd_lt {div rem : UInt8} (h : rem < div) (bytes : List UInt8) :
    (longDivide div rem bytes).2 < div := by
  induction bytes generalizing rem with
  | nil => exact h
  | cons x xs ih => exact ih (divide_snd_lt h x)

namespace Octets

/-- One division by ten: the quotient in front, the remainder as the last digit. -/
theorem longDivide_ten (bytes : List UInt8) :
    Byte.valueHigh (Byte.longDivide 10 0 bytes).1 * 10 + (Byte.longDivide 10 0 bytes).2.toNat =
      Byte.valueHigh bytes ∧ (Byte.longDivide 10 0 bytes).2.toNat < 10 :=
  ⟨Byte.longDivide_value (by decide) 0 bytes, Byte.longDivide_snd_lt (by decide) bytes⟩

/-- **Repeated division finds the decimal digits**, the first of which is not zero. -/
theorem decimalDigits_eq (bytes : List UInt8) (found : List Char) :
    ∃ ds : List Nat, decimalDigits bytes found = ds.map Nat.digitChar ++ found ∧
      (∀ d ∈ ds, d < 10) ∧ NoLeadingZero ds ∧ positional 10 ds = Byte.valueHigh bytes := by
  fun_induction decimalDigits bytes found with
  | case1 bytes found hnil =>
    have hval := Byte.valueHigh_dropWhile_zero bytes
    rw [hnil] at hval
    exact ⟨[], rfl, by simp, by simp [NoLeadingZero], hval⟩
  | case2 bytes found top rest hcons ih =>
    obtain ⟨ds, hds, hlt, hlead, hquot⟩ := ih
    obtain ⟨hdiv, hrem⟩ := longDivide_ten (top :: rest)
    have hval := Byte.valueHigh_dropWhile_zero bytes
    rw [hcons] at hval
    have hpos := Byte.valueHigh_pos_of_dropWhile hcons
    refine ⟨ds ++ [(Byte.longDivide 10 0 (top :: rest)).2.toNat], ?_, ?_, ?_, ?_⟩
    · rw [hds, List.map_append, List.append_assoc]
      rfl
    · intro d hd
      rcases List.mem_append.mp hd with hd | hd
      · exact hlt d hd
      · rw [List.mem_singleton.mp hd]
        exact hrem
    · cases ds with
      | nil =>
        -- the quotient is zero, so the remainder is the whole number
        intro hz
        have hz' : (Byte.longDivide 10 0 (top :: rest)).2.toNat = 0 := Option.some.inj hz
        rw [positional_nil] at hquot
        omega
      | cons d ds => exact hlead
    · rw [positional_append, hquot, positional_singleton, ← hval, ← hdiv]
      rfl

theorem shortest_decimal (x : Octets) : Shortest 10 x.value x.decimal.toList := by
  obtain ⟨ds, hds, hlt, hlead, hval⟩ := decimalDigits_eq x.bytes []
  rw [List.append_nil] at hds
  unfold decimal
  rw [hds]
  cases ds with
  | nil =>
    refine ⟨⟨[0], rfl, by simp, ?_⟩, by decide, fun _ => by decide⟩
    rw [positional_singleton]
    exact hval
  | cons d ds =>
    rw [List.map_cons, String.toList_ofList]
    refine ⟨⟨d :: ds, rfl, hlt, hval⟩, by simp, fun h0 => ?_⟩
    have hd : d < 16 := Nat.lt_trans (hlt d List.mem_cons_self) (by decide)
    have hd0 : d = 0 := (digitChar_eq_zero_iff hd).mp (Option.some.inj h0)
    exact absurd (by rw [hd0]; rfl) hlead

end Octets

end Tribase
