import Tribase.Proofs.Sheet.Cells

/-!
# What cells show

The mark of a loss stands in front of the cells exactly where the value needs more bytes than the
width has. So the cells show the value as a whole: its residue, and whether that is all of it.

* `Marked due text`: the text starts with the mark exactly where it is due, and has no other;
* `fit_lossy`: a value is lossy at a width of `w` bytes from `256 ^ w` on, whatever the cap is;
* `Cells.Shows c w n`: the cells denote `n` modulo `256 ^ w`, and are marked where `256 ^ w ≤ n`;
* **`shows_cells`**: the cells of a value show it;
* `cells_eq_iff`: two values have the same cells where residue and mark are the same.
-/

namespace Tribase

/-! ## 1. Marks -/

/-- The text starts with the mark of a loss exactly where it is due, and has no other. -/
structure Marked (due : Bool) (text : String) : Prop where
  head : text.toList.head? = some lossMark ↔ due = true
  rest : lossMark ∉ text.toList.tail

theorem marked_markLoss {text : String} (h : lossMark ∉ text.toList) (due : Bool) :
    Marked due (markLoss due text) := by
  cases due with
  | false =>
    refine ⟨iff_of_false ?_ Bool.false_ne_true, ?_⟩
    · exact fun hhead => h (List.mem_of_head? hhead)
    · exact fun hmem => h (List.mem_of_mem_tail hmem)
  | true =>
    have hlist : (markLoss true text).toList = lossMark :: text.toList := String.toList_ofList
    refine ⟨iff_of_true ?_ rfl, ?_⟩
    · rw [hlist, List.head?_cons]
    · rw [hlist, List.tail_cons]
      exact h

/-- The mark takes one more character. -/
theorem Marked.length_eq {due : Bool} {text : String} (h : Marked due text) :
    text.length = (unmark text).length + due.toNat := by
  rw [← String.length_toList, unmark]
  cases due with
  | false =>
    rw [if_neg fun hhead => Bool.false_ne_true (h.head.mp hhead)]
    rfl
  | true =>
    have hhead := h.head.mpr rfl
    rw [if_pos hhead]
    obtain ⟨tail, htail⟩ := List.head?_eq_some_iff.mp hhead
    rw [htail]
    rfl

theorem Fit.marked_cells (f : Fit) :
    ∀ text ∈ [f.cells.dec, f.cells.hex, f.cells.bin], Marked f.cells.lossy text := by
  have hdec := f.bytes.shortest_decimal.spells.lossMark_notMem (by decide)
  have hhex := f.bytes.spells_hexBytes.1.lossMark_notMem (by decide)
  have hbin := f.bytes.spells_bitBytes.1.lossMark_notMem (by decide)
  intro text htext
  simp only [List.mem_cons, List.not_mem_nil, or_false] at htext
  rcases htext with rfl | rfl | rfl
  · exact marked_markLoss hdec f.lossy
  · refine marked_markLoss ?_ f.lossy
    rw [f.bytes.toList_hexadecimal_length]
    exact List.not_mem_cons_of_ne_of_not_mem (by decide)
      (List.not_mem_cons_of_ne_of_not_mem (by decide) hhex)
  · refine marked_markLoss ?_ f.lossy
    rw [f.bytes.toList_binary_length]
    exact List.not_mem_cons_of_ne_of_not_mem (by decide)
      (List.not_mem_cons_of_ne_of_not_mem (by decide) hbin)

/-! ## 2. Losses -/

namespace Octets

/-- **A value is lossy from `256 ^ w` on.** -/
theorem fit_lossy (x : Octets) (w : Nat) (cap : PadCap) :
    (x.fit w cap).lossy = true ↔ 256 ^ w ≤ x.value := by
  have hlossy : (x.fit w cap).lossy = !(x.fit w cap).bytes.equivalent x := rfl
  rw [hlossy, Bool.not_eq_true', ← Bool.not_eq_true, equivalent_iff, value_fit]
  constructor
  · intro hne
    exact Nat.le_of_not_lt fun hlt => hne (Nat.mod_eq_of_lt hlt)
  · intro hle heq
    have hlt : x.value % 256 ^ w < 256 ^ w := Nat.mod_lt _ (Nat.pow_pos (by decide))
    omega

end Octets

/-! ## 3. Cells that show a number -/

/-- The cells denote `n` modulo `256 ^ w`, and the mark of a loss stands in front of each of them
    exactly where `n` is more than that. -/
structure Cells.Shows (c : Cells) (w n : Nat) : Prop where
  denotes : c.Denotes w (n % 256 ^ w)
  lossy : c.lossy = true ↔ 256 ^ w ≤ n
  marked : ∀ text ∈ [c.dec, c.hex, c.bin], Marked c.lossy text

namespace Octets

section

variable {w : Nat} {cap : PadCap} (hw : w ≤ cap.bytes) (x y : Octets)
include hw

/-- **The cells of a value show it.** -/
theorem shows_cells : (x.cells w cap).Shows w x.value :=
  ⟨denotes_cells hw x, fit_lossy x w cap, (x.fit w cap).marked_cells⟩

/-- The same cells are the same residue with the same mark. -/
theorem cells_eq_iff :
    x.cells w cap = y.cells w cap ↔
      x.value % 256 ^ w = y.value % 256 ^ w ∧ (256 ^ w ≤ x.value ↔ 256 ^ w ≤ y.value) := by
  have hx := shows_cells hw x
  have hy := shows_cells hw y
  constructor
  · intro h
    rw [h] at hx
    exact ⟨hx.denotes.dec.spells.value_unique hy.denotes.dec.spells (by decide),
      hx.lossy.symm.trans hy.lossy⟩
  · rintro ⟨hval, hloss⟩
    obtain ⟨hlen, _⟩ := fit_bytes hw x
    obtain ⟨hlen', _⟩ := fit_bytes hw y
    have hbytes : (x.fit w cap).bytes = (y.fit w cap).bytes :=
      eq_of_value_eq (hlen.trans hlen'.symm) (by rw [value_fit, value_fit, hval])
    have hlossy : (x.fit w cap).lossy = (y.fit w cap).lossy :=
      Bool.eq_iff_iff.mpr (hx.lossy.trans (hloss.trans hy.lossy.symm))
    exact congrArg Fit.cells (Fit.ext hbytes hlossy)

end

end Octets

end Tribase
