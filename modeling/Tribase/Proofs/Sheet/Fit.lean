import Tribase.Proofs.Numeral.Literal
import Tribase.Proofs.Sheet.Loss

/-!
# Values at any width, under any cap

A sheet keeps its width within its cap. Here both are arbitrary: a cap that is reached leaves fewer
bytes than the width has, and a width or a cap of zero may leave none. The integer does not show it,
and what is displayed can be read again as long as there is a byte.

* **`fit_reduces`**: the kept bytes are the value modulo `256 ^ w`, and only a greater value is lossy;
* `withoutMark cell` is a cell without the mark of a loss, as a text;
* `Octets.numerals y`: the three numerals of a string at its own length;
* `Fit.withoutMark_cells`: without the mark, the cells are the numerals of the kept bytes;
* `readLiteral_numerals`, `readLiteral_numerals_empty`: how numerals of a string are read, with at least
  one byte and with none;
* **`cells_readBack`**: so the three cells are read as one string, which is the value where nothing is
  lost.
-/

namespace Tribase

namespace Octets

/-! ## 1. The kept bytes -/

/-- **A value is brought to a width by reduction**: the kept bytes are the value modulo `256 ^ w`.
    They are as many as the width says, unless the cap ends the padding of a shorter string. The
    value is lossy from `256 ^ w` on and never below, whatever the cap is and with or without
    leading zeros. -/
theorem fit_reduces (x : Octets) (w : Nat) (cap : PadCap) :
    (x.fit w cap).bytes.value = x.value % 256 ^ w ∧
    (x.fit w cap).bytes.length =
      (if w ≤ x.length then w else x.length + min (w - x.length) cap.bytes) ∧
    ((x.fit w cap).lossy = true ↔ 256 ^ w ≤ x.value) ∧
    ∀ cap' : PadCap, (x.trim.fit w cap').lossy = (x.fit w cap).lossy := by
  refine ⟨value_fit x w cap, length_fit x w cap, fit_lossy x w cap, fun cap' => ?_⟩
  rw [Bool.eq_iff_iff, fit_lossy, fit_lossy, value_trim]

/-- What is not lossy is the same integer. -/
theorem trim_fit_of_not_lossy {x : Octets} {w : Nat} {cap : PadCap}
    (h : (x.fit w cap).lossy = false) : (x.fit w cap).bytes.trim = x.trim := by
  have hlt : x.value < 256 ^ w := by
    rw [← Nat.not_le, ← fit_lossy x w cap, h]
    exact Bool.false_ne_true
  rw [trim_eq_ofNat, trim_eq_ofNat, value_fit, Nat.mod_eq_of_lt hlt]

/-! ## 2. The numerals of a string -/

/-- The decimal, hexadecimal and binary numerals, the last two at the length of the string. -/
def numerals (y : Octets) : List String :=
  [y.decimal, y.hexadecimal y.length, y.binary y.length]

/-- **Numerals of at least one byte are read as one string.** -/
theorem readLiteral_numerals {y : Octets} (hne : y.length ≠ 0) {text : String}
    (htext : text ∈ y.numerals) (hsize : text.utf8ByteSize ≤ Estimate.maxSize) :
    readLiteral text = .ok y.trim := by
  have hone : 1 ≤ max y.length y.length := by omega
  simp only [numerals, List.mem_cons, List.not_mem_nil, or_false] at htext
  rw [trim_eq_ofNat]
  rcases htext with rfl | rfl | rfl
  · exact readLiteral_decimal (.inl rfl) rfl hsize y.shortest_decimal
  · exact readLiteral_hexadecimal hone hsize
  · exact readLiteral_binary hone hsize

/-- Without a byte only the decimal numeral has a digit. -/
theorem readLiteral_numerals_empty {y : Octets} (hlen : y.length = 0) :
    y.numerals.map readLiteral = [.ok empty, .error .noDigits, .error .noDigits] := by
  obtain ⟨bytes⟩ := y
  obtain rfl : bytes = [] := List.eq_nil_of_length_eq_zero hlen
  have hdecimal : (Octets.mk []).decimal = "0" := by simp [decimal, decimalDigits]
  rw [numerals, hdecimal]
  rfl

end Octets

/-! ## 3. Cells that are read again -/

/-- A cell without the mark of a loss. -/
def withoutMark (cell : String) : String :=
  String.ofList (unmark cell)

theorem withoutMark_of_unmarked {cell : String} (h : Marked false cell) : withoutMark cell = cell := by
  have hhead : cell.toList.head? ≠ some lossMark := fun hmark =>
    Bool.false_ne_true (h.head.mp hmark)
  rw [withoutMark, unmark, if_neg hhead, String.ofList_toList]

/-- Without the mark, the cells are the numerals of the kept bytes. -/
theorem Fit.withoutMark_cells (f : Fit) :
    [f.cells.dec, f.cells.hex, f.cells.bin].map withoutMark = f.bytes.numerals := by
  obtain ⟨hdec, hrest⟩ := Prod.mk.inj f.digits_cells
  obtain ⟨hhex, hbin⟩ := Prod.mk.inj hrest
  rw [← f.bytes.toList_hexadecimal_length] at hhex
  rw [← f.bytes.toList_binary_length] at hbin
  simp only [List.map_cons, List.map_nil, withoutMark, hdec, hhex, hbin, String.ofList_toList]
  rfl

namespace Octets

/-- **The three cells of a value agree.** They are marked together, where the value is lossy.
    Without the mark each of them is read as the kept bytes without leading zeros, and where nothing
    is lost each is read, as it stands, as the value itself; this of any text that memory can hold.
    Only where no byte is kept have the hexadecimal and the binary cell no digit. -/
theorem cells_readBack (x : Octets) (w : Nat) (cap : PadCap) :
    let n := x.fit w cap
    let r := x.cells w cap
    let texts := [r.dec, r.hex, r.bin]
    r.lossy = n.lossy ∧
    (∀ text ∈ texts, text.toList.head? = some '*' ↔ r.lossy = true) ∧
    (n.bytes.length ≠ 0 → ∀ text ∈ texts,
      ((withoutMark text).utf8ByteSize ≤ Estimate.maxSize →
        readLiteral (withoutMark text) = .ok n.bytes.trim) ∧
      (r.lossy = false → text.utf8ByteSize ≤ Estimate.maxSize → readLiteral text = .ok x.trim)) ∧
    (n.bytes.length = 0 → texts.map (fun text => readLiteral (withoutMark text)) =
      [.ok empty, .error .noDigits, .error .noDigits]) := by
  intro n r texts
  have hmarked : ∀ text ∈ texts, Marked r.lossy text := n.marked_cells
  have hnumerals : texts.map withoutMark = n.bytes.numerals := n.withoutMark_cells
  refine ⟨rfl, fun text htext => (hmarked text htext).head, fun hne text htext => ?_, fun hlen => ?_⟩
  · have hmem : withoutMark text ∈ n.bytes.numerals := hnumerals ▸ List.mem_map_of_mem htext
    refine ⟨readLiteral_numerals hne hmem, fun hlossy hsize => ?_⟩
    have hmark := hmarked text htext
    rw [hlossy] at hmark
    rw [withoutMark_of_unmarked hmark] at hmem
    rw [readLiteral_numerals hne hmem hsize, trim_fit_of_not_lossy hlossy]
  · rw [← readLiteral_numerals_empty hlen, ← hnumerals, List.map_map]
    rfl

/-- Nine bits at a width of one byte, where the mark goes, and four bits at a width of eight bytes,
    to which a cap of two bytes does not reach. -/
theorem cells_readBack_marked_capped :
    ((⟨[0x01, 0xff]⟩ : Octets).cells 1 .standard).hex = "*0xff" ∧
    readLiteral "0xff" = .ok ⟨[0xff]⟩ ∧
    ((⟨[0x0c]⟩ : Octets).cells 8 ⟨2⟩).bin = "0b000000000000000000001100" ∧
    readLiteral "0b000000000000000000001100" = .ok ⟨[0x0c]⟩ := by
  have hhex : ((⟨[0x01, 0xff]⟩ : Octets).cells 1 .standard).hex = "*0xff" := by decide
  have hbin : ((⟨[0x0c]⟩ : Octets).cells 8 ⟨2⟩).bin = "0b000000000000000000001100" := by decide
  obtain ⟨_, _, hread, _⟩ := cells_readBack ⟨[0x01, 0xff]⟩ 1 .standard
  obtain ⟨_, _, hread', _⟩ := cells_readBack ⟨[0x0c]⟩ 8 ⟨2⟩
  have hmarked := (hread (by decide) _ (.tail _ (.head _))).1
  have hcapped := (hread' (by decide) _ (.tail _ (.tail _ (.head _)))).2 (by decide)
  rw [hhex] at hmarked
  rw [hbin] at hcapped
  exact ⟨hhex, hmarked (by decide), hbin, hcapped (by decide)⟩

end Octets

end Tribase
