import Tribase.Sheet.Cells
import Tribase.Proofs.Numeral.Written

/-!
# What cells denote

A value at a width is its residue, and the three cells of it spell that residue.

* `unmark cell` is a cell without the mark of a loss;
* `Cells.Denotes c w n`: without the mark, the cells are the decimal numeral of `n`, and its
  hexadecimal and binary numerals of `w` bytes after their marks;
* `Fit.digits_cells`: the unmarked cells are the numerals of the kept bytes;
* `value_fit`, `length_fit`: the kept bytes have the value modulo `256 ^ w`, and are as many as width and
  cap allow; so they are `w` in number where the cap is no less (`fit_bytes`);
* **`denotes_cells`**: so the cells of a value denote it modulo `256 ^ w`;
* `digits_cells_congr`: values that agree modulo `256 ^ w` have the same cells but for the mark.
-/

namespace Tribase

/-! ## 1. Marks -/

/-- The characters of a cell, without the mark of a loss. -/
def unmark (cell : String) : List Char :=
  if cell.toList.head? = some lossMark then cell.toList.tail else cell.toList

theorem unmark_markLoss {text : String} (h : text.toList.head? ≠ some lossMark) (lossy : Bool) :
    unmark (markLoss lossy text) = text.toList := by
  cases lossy with
  | false => exact if_neg h
  | true =>
    rw [unmark, markLoss, if_pos rfl, String.toList_ofList]
    exact if_pos rfl

/-- The mark is no digit. -/
theorem Spells.lossMark_notMem {radix n : Nat} {cs : List Char} (h : Spells radix n cs)
    (hr : radix ≤ 16) : lossMark ∉ cs := by
  intro hmark
  have hmem : lossMark ∈ "0123456789abcdef".toList := h.mem_lower hr _ hmark
  exact absurd hmem (by decide)

theorem Spells.head?_ne_lossMark {radix n : Nat} {cs : List Char} (h : Spells radix n cs)
    (hr : radix ≤ 16) : cs.head? ≠ some lossMark := fun hmark =>
  h.lossMark_notMem hr (List.mem_of_head? hmark)

namespace Cells

/-- The three texts without the mark of a loss. -/
def digits (c : Cells) : List Char × List Char × List Char :=
  (unmark c.dec, unmark c.hex, unmark c.bin)

/-- Without the mark of a loss, the cells are numerals of `n` at `w` bytes. -/
structure Denotes (c : Cells) (w n : Nat) : Prop where
  dec : Shortest 10 n (unmark c.dec)
  hex : ∃ ds, unmark c.hex = '0' :: 'x' :: ds ∧ Spells 16 n ds ∧ ds.length = 2 * w
  bin : ∃ ds, unmark c.bin = '0' :: 'b' :: ds ∧ Spells 2 n ds ∧ ds.length = 8 * w

end Cells

/-- At the length of the string itself, every byte is written and none is added. -/
theorem Octets.toList_hexadecimal_length (x : Octets) :
    (x.hexadecimal x.length).toList = '0' :: 'x' :: x.hexBytes := by
  have hext : x.zeroExtend x.length = x := eq_of_value_eq (by simp) (value_zeroExtend _ _)
  rw [hexadecimal, hext, String.toList_ofList]

theorem Octets.toList_binary_length (x : Octets) :
    (x.binary x.length).toList = '0' :: 'b' :: x.bitBytes := by
  have hext : x.zeroExtend x.length = x := eq_of_value_eq (by simp) (value_zeroExtend _ _)
  rw [binary, hext, String.toList_ofList]

/-- The unmarked cells are the numerals of the kept bytes. -/
theorem Fit.digits_cells (f : Fit) : f.cells.digits =
    (f.bytes.decimal.toList, '0' :: 'x' :: f.bytes.hexBytes, '0' :: 'b' :: f.bytes.bitBytes) := by
  have hdec := f.bytes.shortest_decimal.spells.head?_ne_lossMark (by decide)
  have hhex := f.bytes.toList_hexadecimal_length
  have hbin := f.bytes.toList_binary_length
  have hzero : ∀ cs : List Char, ('0' :: cs).head? ≠ some lossMark := fun cs h =>
    absurd (Option.some.inj h) (by decide)
  refine Prod.ext (unmark_markLoss hdec _) (Prod.ext ?_ ?_)
  · exact (unmark_markLoss (by rw [hhex]; exact hzero _) _).trans hhex
  · exact (unmark_markLoss (by rw [hbin]; exact hzero _) _).trans hbin

/-! ## 2. Values at a width -/

namespace Octets

section

variable (x : Octets) (w : Nat) (cap : PadCap)

/-- A string that is shorter than the width grows towards it as far as the cap allows. -/
theorem length_value_padded :
    (if x.length < w then x.pad (w - x.length) cap else x).length =
        x.length + min (w - x.length) cap.bytes ∧
      (if x.length < w then x.pad (w - x.length) cap else x).value = x.value := by
  split
  · refine ⟨?_, value_pad _ _ _⟩
    rw [length_pad, PadCap.clamp, Nat.add_comm]
  · exact ⟨by omega, rfl⟩

/-- The kept bytes are the value modulo `256 ^ w`, also where the cap leaves fewer of them. -/
theorem value_fit : (x.fit w cap).bytes.value = x.value % 256 ^ w := by
  obtain ⟨_, hval⟩ := x.length_value_padded w cap
  rw [fit, value_truncate, hval]

/-- A string of the width or more is cut to it, and a shorter one keeps what it has grown to. -/
theorem length_fit :
    (x.fit w cap).bytes.length =
      if w ≤ x.length then w else x.length + min (w - x.length) cap.bytes := by
  obtain ⟨hlen, _⟩ := x.length_value_padded w cap
  rw [fit, length_truncate, hlen]
  split <;> omega

end

section

variable {w : Nat} {cap : PadCap} (hw : w ≤ cap.bytes) (x y : Octets)
include hw

/-- **The kept bytes** are as many as declared, and have the value modulo `256 ^ w`. -/
theorem fit_bytes :
    (x.fit w cap).bytes.length = w ∧ (x.fit w cap).bytes.value = x.value % 256 ^ w := by
  refine ⟨?_, value_fit x w cap⟩
  rw [length_fit]
  split <;> omega

/-- **The cells of a value denote it modulo `256 ^ w`.** -/
theorem denotes_cells : (x.cells w cap).Denotes w (x.value % 256 ^ w) := by
  obtain ⟨hlen, hval⟩ := fit_bytes hw x
  obtain ⟨hdec, hrest⟩ := Prod.mk.inj (x.fit w cap).digits_cells
  obtain ⟨hhex, hbin⟩ := Prod.mk.inj hrest
  rw [← hval]
  refine ⟨?_, ⟨_, hhex, ?_⟩, ⟨_, hbin, ?_⟩⟩
  · exact hdec.symm ▸ (x.fit w cap).bytes.shortest_decimal
  · have h := (x.fit w cap).bytes.spells_hexBytes
    rwa [hlen] at h
  · have h := (x.fit w cap).bytes.spells_bitBytes
    rwa [hlen] at h

/-- Values that agree modulo `256 ^ w` have the same cells but for the mark. -/
theorem digits_cells_congr (h : x.value % 256 ^ w = y.value % 256 ^ w) :
    (x.cells w cap).digits = (y.cells w cap).digits := by
  obtain ⟨hlen, hval⟩ := fit_bytes hw x
  obtain ⟨hlen', hval'⟩ := fit_bytes hw y
  have hsame : (x.fit w cap).bytes = (y.fit w cap).bytes :=
    eq_of_value_eq (hlen.trans hlen'.symm) (by rw [hval, hval', h])
  rw [cells, cells, Fit.digits_cells, Fit.digits_cells, hsame]

end

end Octets

end Tribase
