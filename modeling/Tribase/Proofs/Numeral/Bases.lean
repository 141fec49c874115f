import Tribase.Proofs.Numeral.Literal
import Tribase.Proofs.Numeral.Radix

/-!
# Hexadecimal and binary numerals

A writer is characterised by what it writes: there is one shortest numeral of an integer in each
base and case, and one numeral of a fixed count of digits, and these are what the writers put down.

* `ShortestUpper radix n cs`: the shortest spelling, with letters in upper case;
* `ShortestUpper.unique`: there is one such text;
* `format_plain`: without a field, the digits stand alone;
* **`numerals_positional`**: what the writers of base sixteen and two put down.
-/

namespace Tribase

/-! ## 1. Upper case -/

/-- The shortest spelling in upper case: in lower case it is the shortest spelling. -/
structure ShortestUpper (radix n : Nat) (cs : List Char) : Prop where
  upper : ∀ c ∈ cs, c ∈ upperDigits
  shortest : Shortest radix n (cs.map Char.toLower)

/-- Digits in upper case come back from lower case. -/
theorem map_toUpper_map_toLower {cs : List Char} (h : ∀ c ∈ cs, c ∈ upperDigits) :
    (cs.map Char.toLower).map Char.toUpper = cs := by
  have hall : upperDigits.all (fun c => c.toLower.toUpper == c) = true := by decide
  rw [List.map_map]
  refine (List.map_congr_left fun c hc => ?_).trans (List.map_id cs)
  exact eq_of_beq (List.all_eq_true.mp hall c (h c hc))

/-- In upper case, the shortest spelling is the shortest again. -/
theorem Shortest.toUpper {radix n : Nat} {cs : List Char} (h : Shortest radix n cs)
    (hr : radix ≤ 16) : ShortestUpper radix n (cs.map Char.toUpper) := by
  have hall : ∀ d < 16, (Nat.digitChar d).toUpper ∈ upperDigits ∧
      (Nat.digitChar d).toUpper.toLower = Nat.digitChar d := by decide
  have hdigit : ∀ c ∈ cs, c.toUpper ∈ upperDigits ∧ c.toUpper.toLower = c := by
    obtain ⟨ds, rfl, hds, _⟩ := h.spells
    intro c hc
    obtain ⟨d, hd, rfl⟩ := List.mem_map.mp hc
    exact hall d (Nat.lt_of_lt_of_le (hds d hd) hr)
  have hback : (cs.map Char.toUpper).map Char.toLower = cs := by
    rw [List.map_map]
    exact (List.map_congr_left fun c hc => (hdigit c hc).2).trans (List.map_id cs)
  constructor
  · intro c hc
    obtain ⟨e, he, rfl⟩ := List.mem_map.mp hc
    exact (hdigit e he).1
  · rw [hback]
    exact h

theorem ShortestUpper.unique {radix n : Nat} {cs cs' : List Char} (h : ShortestUpper radix n cs)
    (h' : ShortestUpper radix n cs') (hr : 1 < radix) : cs = cs' := by
  have hsame := congrArg (List.map Char.toUpper) (h.shortest.unique h'.shortest hr)
  rwa [map_toUpper_map_toLower h.upper, map_toUpper_map_toLower h'.upper] at hsame

namespace Octets

/-! ## 2. Numerals -/

theorem shortestUpper_upperHexDigits (x : Octets) :
    ShortestUpper 16 x.value x.upperHexDigits.toList := by
  rw [toList_upperHexDigits]
  exact x.shortest_hexDigits.toUpper (by decide)

/-- Without a field, the digits stand alone. -/
theorem format_plain (x : Octets) :
    x.format .lowerHex {} = x.hexDigits ∧ x.format .upperHex {} = x.upperHexDigits ∧
      x.format .binary {} = x.bitDigits := by
  have hplain : ∀ mark digits, ({} : Placement).layOut mark digits = digits := fun mark digits =>
    String.toList_injective (Placement.toList_layOut_narrow {} mark digits)
  exact ⟨hplain "0x" _, hplain "0x" _, hplain "0b" _⟩

/-- The digits are those of the integer: leading zero bytes do not show. -/
theorem digits_congr {x y : Octets} (h : y.value = x.value) :
    y.hexDigits = x.hexDigits ∧ y.upperHexDigits = x.upperHexDigits ∧ y.bitDigits = x.bitDigits := by
  have hhex := y.shortest_hexDigits
  have hupper := y.shortestUpper_upperHexDigits
  have hbits := y.shortest_bitDigits
  rw [h] at hhex hupper hbits
  exact ⟨String.toList_injective (hhex.unique x.shortest_hexDigits (by decide)),
    String.toList_injective (hupper.unique x.shortestUpper_upperHexDigits (by decide)),
    String.toList_injective (hbits.unique x.shortest_bitDigits (by decide))⟩

/-- **Hexadecimal and binary digits are positional.** Without a field, what is written is the one
    shortest numeral of the integer in its base and case; in any field, strings of one integer are
    written alike, whatever their leading zeros; and with every byte written, after the mark there
    are two, or eight, digits for each of them, which are the one numeral of that length. -/
theorem numerals_positional (x : Octets) :
    (∀ s : String, Shortest 16 x.value s.toList ↔ s = x.format .lowerHex {}) ∧
    (∀ s : String, ShortestUpper 16 x.value s.toList ↔ s = x.format .upperHex {}) ∧
    (∀ s : String, Shortest 2 x.value s.toList ↔ s = x.format .binary {}) ∧
    (∀ (y : Octets) (f : Placement), y.value = x.value →
      y.format .lowerHex f = x.format .lowerHex f ∧ y.format .upperHex f = x.format .upperHex f ∧
        y.format .binary f = x.format .binary f) ∧
    ∀ (least : Nat) (s : String),
      (FullWidth 16 ['0', 'x'] (2 * max least x.length) x.value s.toList ↔ s = x.hexadecimal least) ∧
        (FullWidth 2 ['0', 'b'] (8 * max least x.length) x.value s.toList ↔ s = x.binary least) := by
  obtain ⟨hlower, hupper, hbits⟩ := x.format_plain
  rw [hlower, hupper, hbits]
  refine ⟨fun s => ⟨fun h => ?_, fun h => h ▸ x.shortest_hexDigits⟩,
    fun s => ⟨fun h => ?_, fun h => h ▸ x.shortestUpper_upperHexDigits⟩,
    fun s => ⟨fun h => ?_, fun h => h ▸ x.shortest_bitDigits⟩, fun y f h => ?_,
    fun least s => ⟨⟨fun h => ?_, fun h => h ▸ x.fullWidth_hexadecimal least⟩,
      ⟨fun h => ?_, fun h => h ▸ x.fullWidth_binary least⟩⟩⟩
  · exact String.toList_injective (h.unique x.shortest_hexDigits (by decide))
  · exact String.toList_injective (h.unique x.shortestUpper_upperHexDigits (by decide))
  · exact String.toList_injective (h.unique x.shortest_bitDigits (by decide))
  · obtain ⟨hhex, hupperHex, hbin⟩ := digits_congr h
    exact ⟨congrArg (f.layOut "0x") hhex, congrArg (f.layOut "0x") hupperHex,
      congrArg (f.layOut "0b") hbin⟩
  · exact String.toList_injective (h.unique (x.fullWidth_hexadecimal least))
  · exact String.toList_injective (h.unique (x.fullWidth_binary least))

/-- Nine bits in three bytes: the numeral has three digits, and no zero byte shows in any field. -/
theorem numerals_positional_nine_bits :
    ShortestUpper 16 511 "1FF".toList ∧ (⟨[0, 1, 255]⟩ : Octets).value = 511 ∧
      (⟨[1, 255]⟩ : Octets).format .upperHex { width := 5 } =
        (⟨[0, 1, 255]⟩ : Octets).format .upperHex { width := 5 } ∧
      FullWidth 16 ['0', 'x'] 8 511 "0x000001ff".toList := by
  obtain ⟨_, hupper, _, hzeros, hfull⟩ := numerals_positional ⟨[0, 1, 255]⟩
  exact ⟨(hupper "1FF").mpr (by decide), rfl, (hzeros ⟨[1, 255]⟩ { width := 5 } rfl).2.1,
    (hfull 4 "0x000001ff").1.mpr (by decide)⟩

end Octets

end Tribase
