import Tribase.Proofs.Octets.Arithmetic
import Tribase.Proofs.Sheet.Run

/-!
# Complements in the report on two numbers

The report inverts an operand at its own length, filled up to the declared width, and combines it
with one that may be longer: bits of the longer operand above that length are cleared by an and-not
and kept by an exclusive or. The digits at the width do not show this, but the mark of a loss does.

* `reportValues la lb a b` are the values of the report, exactly, for `a` in `la` bytes and `b` in
  `lb`; `reportTwo_values` says so;
* `Cells.MarksAndNot`, **`rows_andNot`**: the rows of the and-nots are marked for the bits that the
  complement reaches, so the mark is right where it reaches all of the other operand;
* `andNot_unmarked`: a loss above that length is not marked;
* `cellsOf`: the cells of a row depend on the value of its line only;
* **`rows_two_exchange`**: exchanged operands give the same cells, exchanged, but for the row of the
  inverted exclusive or, whose digits are the same; and when its mark is the same, too;
* `xorNot_mark_by_order`: that mark can depend on the order.
-/

namespace Tribase

/-! ## 1. The values of the report -/

/-- The values of the report on two numbers, in the order of its rows: `a` in `la` bytes, and `b` in
    `lb` bytes. -/
def reportValues (la lb a b : Nat) : List Nat :=
  [a, b, a + b, a ||| b, a &&& b, a ^^^ b, (a ^^^ b) ^^^ (256 ^ lb - 1),
   (a + (256 ^ max la lb - b)) % 256 ^ max la lb, Nat.ldiff a b % 256 ^ lb,
   (b + (256 ^ max la lb - a)) % 256 ^ max la lb, Nat.ldiff b a % 256 ^ la]

theorem reportTwo_values (a b : Octets) (nameA nameB : String) :
    (reportTwo a b nameA nameB).map (·.value.value) =
      reportValues a.length b.length a.value b.value := by
  have hadd : (a + b).value = a.value + b.value := Octets.value_add a b
  have hor : (a ||| b).value = a.value ||| b.value := Octets.value_bitwise .or a b
  have hand : (a &&& b).value = a.value &&& b.value := Octets.value_bitwise .and a b
  have hxor : (a ^^^ b).value = a.value ^^^ b.value := Octets.value_bitwise .xor a b
  have hxorNot : (a ^^^ b.complement).value = _ := Octets.value_xor_complement a b
  have handNot : (a &&& b.complement).value = _ := Octets.value_and_complement a b
  have handNot' : (b &&& a.complement).value = _ := Octets.value_and_complement b a
  have hsub : (a - b).value = _ := Octets.value_subtract a b
  have hsub' : (b - a).value = _ := Octets.value_subtract b a
  rw [Nat.max_comm] at hsub'
  simp only [reportTwo, reportValues, List.map_cons, List.map_nil, hadd, hor, hand, hxor, hxorNot,
    handNot, handNot', hsub, hsub']

theorem Step.lines_two_values (c : Config) (a b : Octets) (nameA nameB : String) :
    ((Step.two a b nameA nameB).lines c).map (·.value.value) =
      reportValues (max a.length c.width) (max b.length c.width) a.value b.value := by
  rw [lines, reportTwo_values, c.length_widen, c.length_widen, c.value_widen, c.value_widen]

/-! ## 2. And-not -/

theorem ldiff_lt {a k : Nat} (b : Nat) (h : a < 2 ^ k) : Nat.ldiff a b < 2 ^ k := by
  refine Nat.lt_pow_two_of_testBit _ fun i hi => ?_
  rw [Nat.testBit_ldiff, Nat.testBit_lt_two_pow (h.trans_le (Nat.pow_le_pow_right (by decide) hi)),
    Bool.false_and]

/-- The cells are marked for `a` without the bits of `b`, as far as the complement of `b` reaches at
    a width of `w` bytes. -/
structure Cells.MarksAndNot (c : Cells) (w : Nat) (a b : Octets) : Prop where
  marked : ∀ text ∈ [c.dec, c.hex, c.bin], Marked c.lossy text
  reached : c.lossy = true ↔ 256 ^ w ≤ Nat.ldiff a.value b.value % 256 ^ max b.length w
  whole : a.value < 256 ^ max b.length w → (c.lossy = true ↔ 256 ^ w ≤ Nat.ldiff a.value b.value)

theorem Cells.Shows.marksAndNot {c : Cells} {w : Nat} {a b : Octets}
    (h : c.Shows w (Nat.ldiff a.value b.value % 256 ^ max b.length w)) : c.MarksAndNot w a b := by
  refine ⟨h.marked, h.lossy, fun hlt => ?_⟩
  rw [pow_256] at hlt
  have hdiff := ldiff_lt b.value hlt
  rw [← pow_256] at hdiff
  rw [h.lossy, Nat.mod_eq_of_lt hdiff]

/-- The and-not of two widened operands, as a row. -/
theorem Config.marksAndNot_row (c : Config) (a b : Octets) (label : String) :
    ((Line.mk label (c.widen a &&& (c.widen b).complement)).row c).cells.MarksAndNot c.width a b := by
  have hshows := (Line.mk label (c.widen a &&& (c.widen b).complement)).shows_row c
  have hval : (c.widen a &&& (c.widen b).complement).value = _ :=
    Octets.value_and_complement (c.widen a) (c.widen b)
  rw [hval, c.value_widen, c.value_widen, c.length_widen] at hshows
  exact hshows.marksAndNot

namespace Sheet

/-- **The marks of the and-not rows** tell whether the bits that the complement reaches fit in the
    width. Where it reaches all of the other operand, they tell whether the and-not of the integers
    fits. -/
theorem rows_andNot (c : Config) (steps : List Step) (a b : Octets) (nameA nameB : String) :
    let s := ofSteps c steps
    let w := s.width
    ∃ (rows : List Row) (row row' : Row),
      (s.apply (.two a b nameA nameB)).rows = s.rows ++ rows ∧
      rows[8]? = some row ∧ row.label = s!"{nameA} &~ {nameB}" ∧ row.cells.MarksAndNot w a b ∧
      rows[10]? = some row' ∧ row'.label = s!"{nameB} &~ {nameA}" ∧
      row'.cells.MarksAndNot w b a := by
  intro s w
  have hconfig : s.config = c := config_ofSteps c steps
  have hw : w = c.width := width_ofSteps c steps
  rw [hw]
  refine ⟨(Step.two a b nameA nameB).rows c, _, _, ?_, rfl, rfl, c.marksAndNot_row a b _, rfl, rfl,
    c.marksAndNot_row b a _⟩
  rw [rows_apply, hconfig]

/-- Both operands have two bytes, so the complement reaches all of `a` at a width of one byte. -/
theorem rows_andNot_reached :
    let a : Octets := ⟨[1, 0]⟩
    let b : Octets := ⟨[0, 0]⟩
    let s := ofSteps ⟨8, .standard⟩ []
    a.value < 256 ^ max b.length s.width ∧ ∃ row,
      (s.apply (.two a b "a" "b")).rows[8]? = some row ∧ row.cells.lossy = true := by
  intro a b s
  have hlt : a.value < 256 ^ max b.length s.width := by decide
  have hle : 256 ^ s.width ≤ Nat.ldiff a.value b.value := by decide +kernel
  obtain ⟨rows, row, _, happ, hrow, _, hmarks, _⟩ := rows_andNot ⟨8, .standard⟩ [] a b "a" "b"
  refine ⟨hlt, row, ?_, (hmarks.whole hlt).mpr hle⟩
  rw [happ]
  exact hrow

/-- With one byte to complement and no bits to clear, the high byte of `a` is lost at a width of one
    byte, and nothing marks it. -/
theorem andNot_unmarked :
    let a : Octets := ⟨[1, 0]⟩
    let b : Octets := ⟨[0]⟩
    let s := (new ⟨8, .standard⟩).apply (.two a b "a" "b")
    256 ^ s.width ≤ Nat.ldiff a.value b.value ∧
      s.rows[8]?.map (fun row => (row.label, row.cells.lossy)) = some ("a &~ b", false) := by
  decide +kernel

end Sheet

/-! ## 3. Exchanged operands -/

/-- The cells of a row of value `n`. -/
def Config.cellsOf (c : Config) (n : Nat) : Cells :=
  (Octets.ofNat n).cells c.width c.cap

theorem Line.cells_row (l : Line) (c : Config) : (l.row c).cells = c.cellsOf l.value.value := by
  have hval : l.value.value = (Octets.ofNat l.value.value).value := (Octets.value_ofNat _).symm
  refine (Octets.cells_eq_iff c.width_le _ _).mpr ⟨?_, ?_⟩
  · rw [← hval]
  · rw [← hval]

theorem Step.cells_rows (c : Config) (step : Step) :
    (step.rows c).map (·.cells) = ((step.lines c).map (·.value.value)).map c.cellsOf := by
  rw [rows, List.map_map, List.map_map]
  exact List.map_congr_left fun l _ => l.cells_row c

/-- What the report on exchanged operands has in common with the report. -/
theorem reportValues_exchange (la lb a b : Nat) :
    reportValues lb la b a =
      [b, a, a + b, a ||| b, a &&& b, a ^^^ b, (a ^^^ b) ^^^ (256 ^ la - 1),
       (b + (256 ^ max la lb - a)) % 256 ^ max la lb, Nat.ldiff b a % 256 ^ la,
       (a + (256 ^ max la lb - b)) % 256 ^ max la lb, Nat.ldiff a b % 256 ^ lb] := by
  rw [reportValues, Nat.add_comm b a, Nat.or_comm b a, Nat.and_comm b a, Nat.xor_comm b a,
    Nat.max_comm lb la]

/-- Below the inverted length every bit is inverted. -/
theorem xor_ones_mod {w l : Nat} (h : w ≤ l) (x : Nat) :
    (x ^^^ (256 ^ l - 1)) % 256 ^ w = (x ^^^ (256 ^ w - 1)) % 256 ^ w := by
  refine mod_eq_of_testBit fun i hi => ?_
  rw [Nat.testBit_xor, Nat.testBit_xor, pow_256, pow_256, Nat.testBit_two_pow_sub_one,
    Nat.testBit_two_pow_sub_one, decide_eq_true hi, decide_eq_true (by omega)]

/-- What is left above the width: nothing only where every bit up to the inverted length was set,
    and none above it. -/
theorem le_xor_ones_iff {w l : Nat} (h : w ≤ l) (x : Nat) :
    256 ^ w ≤ x ^^^ (256 ^ l - 1) ↔ x / 256 ^ w + 1 ≠ 256 ^ (l - w) := by
  have hpos : 0 < 256 ^ (l - w) := Nat.pow_pos (by decide)
  have hones : (2 ^ (8 * l) - 1) >>> (8 * w) = 2 ^ (8 * (l - w)) - 1 := by
    refine Nat.eq_of_testBit_eq fun i => ?_
    rw [Nat.testBit_shiftRight, Nat.testBit_two_pow_sub_one, Nat.testBit_two_pow_sub_one,
      decide_eq_decide]
    omega
  -- an exclusive or goes bit by bit, so it can be taken above the width
  have hhigh : (x ^^^ (256 ^ l - 1)) / 256 ^ w = x / 256 ^ w ^^^ (256 ^ (l - w) - 1) := by
    rw [pow_256, pow_256, pow_256, ← Nat.shiftRight_eq_div_pow, ← Nat.shiftRight_eq_div_pow,
      Nat.shiftRight_xor_distrib, hones]
  have hdiv : 0 < (x ^^^ (256 ^ l - 1)) / 256 ^ w ↔ 256 ^ w ≤ x ^^^ (256 ^ l - 1) :=
    Nat.div_pos_iff.trans (and_iff_right (Nat.pow_pos (by decide)))
  rw [← hdiv, hhigh, Nat.pos_iff_ne_zero, Ne, Nat.xor_eq_zero_iff]
  omega

/-- The row of the inverted exclusive or `x`, inverted at `l` or at `l'` bytes: the digits are the
    same, and the cells differ only where one inversion leaves nothing above the width. -/
theorem Config.cellsOf_xor_ones (c : Config) {l l' : Nat} (h : c.width ≤ l) (h' : c.width ≤ l')
    (x : Nat) :
    (c.cellsOf (x ^^^ (256 ^ l - 1))).digits = (c.cellsOf (x ^^^ (256 ^ l' - 1))).digits ∧
      (c.cellsOf (x ^^^ (256 ^ l - 1)) = c.cellsOf (x ^^^ (256 ^ l' - 1)) ↔
        l = l' ∨ (x / 256 ^ c.width + 1 ≠ 256 ^ (l - c.width) ∧
          x / 256 ^ c.width + 1 ≠ 256 ^ (l' - c.width))) := by
  have hmod : (x ^^^ (256 ^ l - 1)) % 256 ^ c.width = (x ^^^ (256 ^ l' - 1)) % 256 ^ c.width :=
    (xor_ones_mod h x).trans (xor_ones_mod h' x).symm
  constructor
  · refine Octets.digits_cells_congr c.width_le _ _ ?_
    rw [Octets.value_ofNat, Octets.value_ofNat, hmod]
  · have hpow : 256 ^ (l - c.width) = 256 ^ (l' - c.width) → l = l' := fun hp => by
      have hexp := Nat.pow_right_injective (by decide) hp
      omega
    rw [cellsOf, cellsOf, Octets.cells_eq_iff c.width_le, Octets.value_ofNat, Octets.value_ofNat,
      and_iff_right hmod, le_xor_ones_iff h, le_xor_ones_iff h']
    -- each mark is missing for one value of the bits above the width, so they agree where the two
    -- values are one, or where the bits have neither
    constructor
    · intro hiff
      by_cases hq : x / 256 ^ c.width + 1 = 256 ^ (l - c.width)
      · have hq' : x / 256 ^ c.width + 1 = 256 ^ (l' - c.width) :=
          Decidable.not_not.mp fun hne => hiff.mpr hne hq
        exact .inl (hpow (hq.symm.trans hq'))
      · exact .inr ⟨hq, hiff.mp hq⟩
    · rintro (rfl | ⟨hq, hq'⟩)
      · exact Iff.rfl
      · exact iff_of_true hq hq'

namespace Sheet

/-- **Exchanged operands exchange the rows**: on any sheet the two reports have the same cells, each
    in the row of its operation. The rows of the inverted exclusive or have the same digits; their
    marks differ where the operands differ in length above the width, and the exclusive or has all
    its bits there, for the length of one of them. -/
theorem rows_two_exchange (c : Config) (steps : List Step) (a b : Octets)
    (nameA nameB nameA' nameB' : String) :
    let s := ofSteps c steps
    let w := s.width
    let high := (a.value ^^^ b.value) / 256 ^ w
    ∃ (rows rows' : List Row)
      (cellsA cellsB sum disj conj xor xorNot xorNot' aMinusB aNotB bMinusA bNotA : Cells),
      (s.apply (.two a b nameA nameB)).rows = s.rows ++ rows ∧
      (s.apply (.two b a nameA' nameB')).rows = s.rows ++ rows' ∧
      rows.map (·.cells) = [cellsA, cellsB, sum, disj, conj, xor, xorNot,
        aMinusB, aNotB, bMinusA, bNotA] ∧
      rows'.map (·.cells) = [cellsB, cellsA, sum, disj, conj, xor, xorNot',
        bMinusA, bNotA, aMinusB, aNotB] ∧
      xorNot.digits = xorNot'.digits ∧
      (xorNot = xorNot' ↔ max b.length w = max a.length w ∨
        (high + 1 ≠ 256 ^ (max b.length w - w) ∧ high + 1 ≠ 256 ^ (max a.length w - w))) := by
  intro s w high
  have hconfig : s.config = c := config_ofSteps c steps
  have hw : w = c.width := width_ofSteps c steps
  have hcells := Step.cells_rows c (.two a b nameA nameB)
  have hcells' := Step.cells_rows c (.two b a nameA' nameB')
  rw [Step.lines_two_values, reportValues] at hcells
  rw [Step.lines_two_values, reportValues_exchange] at hcells'
  have hxorNot := c.cellsOf_xor_ones (Nat.le_max_right b.length c.width)
    (Nat.le_max_right a.length c.width) (a.value ^^^ b.value)
  rw [← hw] at hxorNot
  refine ⟨(Step.two a b nameA nameB).rows c, (Step.two b a nameA' nameB').rows c,
    _, _, _, _, _, _, _, _, _, _, _, _, ?_, ?_, hcells, hcells', ?_⟩
  · rw [rows_apply, hconfig]
  · rw [rows_apply, hconfig]
  · rw [← hw]
    exact hxorNot

/-- The same two numbers in the other order: only one of the reports marks their inverted exclusive
    or. -/
theorem xorNot_mark_by_order :
    let a : Octets := ⟨[255, 0]⟩
    let b : Octets := ⟨[0]⟩
    let s := new ⟨8, .standard⟩
    (s.apply (.two a b "a" "b")).rows[6]?.map (fun row => (row.label, row.cells.lossy)) =
        some ("a ^~ b", true) ∧
      (s.apply (.two b a "b" "a")).rows[6]?.map (fun row => (row.label, row.cells.lossy)) =
        some ("b ^~ a", false) := by
  decide +kernel

end Sheet

end Tribase
