import Tribase.Proofs.Octets.Arithmetic
import Tribase.Proofs.Sheet.Run

/-!
# The report on two numbers

Its rows are right modulo the declared width, whatever the lengths of the operands are. An operand
is filled up to the width by itself, complements are taken at the length of one operand, differences
at the longer one, and a sum may grow; none of this shows in the lowest bytes.

* `combinations w a b` are the integers that the report stands for, in the order of its rows;
* `residue_combinations`: modulo `256 ^ w` they depend on the lowest `w` bytes only;
* `reportTwo_mod`: the values of the report agree with them modulo `256 ^ w`;
* **`rows_two`**: the eleven rows that the report appends to any sheet denote them, and the digits
  are those of the operands cut to the width.
-/

namespace Tribase

/-! ## 1. The integers of the report -/

/-- The integers that the report on two numbers stands for, in the order of its rows, at `w` bytes. -/
def combinations (w a b : Nat) : List Int :=
  [(a : Nat), (b : Nat), (a + b : Nat), (a ||| b : Nat), (a &&& b : Nat), (a ^^^ b : Nat),
   256 ^ w - 1 - ((a ^^^ b) % 256 ^ w : Nat), a - b, (Nat.ldiff a b : Nat), b - a,
   (Nat.ldiff b a : Nat)]

theorem residue_top_sub {w n : Nat} (h : n < 256 ^ w) :
    residue w (256 ^ w - 1 - n) = 256 ^ w - (n + 1) := by
  have hcast : (256 ^ w - 1 - n : Int) = (256 ^ w - (n + 1) : Nat) := by
    rw [Nat.cast_sub h]
    push_cast
    ring
  rw [hcast, residue_natCast]
  exact Nat.mod_eq_of_lt (by omega)

theorem residue_sub_mod (w a b : Nat) :
    residue w ((a % 256 ^ w : Nat) - (b % 256 ^ w : Nat)) = residue w (a - b) := by
  refine residue_congr ?_
  push_cast
  exact (Int.sub_emod _ _ _).symm

/-- Modulo `256 ^ w` only the lowest `w` bytes count. -/
theorem residue_combinations (w a b : Nat) :
    (combinations w (a % 256 ^ w) (b % 256 ^ w)).map (residue w) =
      (combinations w a b).map (residue w) := by
  have hor : (a % 256 ^ w ||| b % 256 ^ w) % 256 ^ w = (a ||| b) % 256 ^ w := BitOp.or.onNat_mod w a b
  have hand : (a % 256 ^ w &&& b % 256 ^ w) % 256 ^ w = (a &&& b) % 256 ^ w :=
    BitOp.and.onNat_mod w a b
  have hxor : (a % 256 ^ w ^^^ b % 256 ^ w) % 256 ^ w = (a ^^^ b) % 256 ^ w :=
    BitOp.xor.onNat_mod w a b
  simp only [combinations, List.map_cons, List.map_nil, residue_natCast, Nat.mod_mod, hor, hand, hxor,
    residue_sub_mod, ldiff_mod, ← Nat.add_mod]

/-- **The values of the report** agree with these integers in the lowest bytes that both operands
    have. -/
theorem reportTwo_mod {w : Nat} {a b : Octets} (ha : w ≤ a.length) (hb : w ≤ b.length)
    (nameA nameB : String) :
    (reportTwo a b nameA nameB).map (fun l => l.value.value % 256 ^ w) =
      (combinations w a.value b.value).map (residue w) := by
  have hadd : (a + b).value = a.value + b.value := Octets.value_add a b
  have hor : (a ||| b).value = a.value ||| b.value := Octets.value_bitwise .or a b
  have hand : (a &&& b).value = a.value &&& b.value := Octets.value_bitwise .and a b
  have hxor : (a ^^^ b).value = a.value ^^^ b.value := Octets.value_bitwise .xor a b
  have hxorNot : (a ^^^ b.complement).value % 256 ^ w = _ := Octets.xor_complement_mod a b hb
  have handNot : (a &&& b.complement).value % 256 ^ w = _ := Octets.and_complement_mod a b hb
  have handNot' : (b &&& a.complement).value % 256 ^ w = _ := Octets.and_complement_mod b a ha
  have hsub : (a - b).value % 256 ^ w = _ := Octets.subtract_mod a b (ha.trans (Nat.le_max_left _ _))
  have hsub' : (b - a).value % 256 ^ w = _ := Octets.subtract_mod b a (hb.trans (Nat.le_max_left _ _))
  have hmod : (a.value ^^^ b.value) % 256 ^ w < 256 ^ w := Nat.mod_lt _ (Nat.pow_pos (by decide))
  simp only [reportTwo, combinations, List.map_cons, List.map_nil, residue_natCast,
    residue_top_sub hmod, hadd, hor, hand, hxor, hxorNot, handNot, handNot', hsub, hsub']

/-! ## 2. Rows -/

namespace Step

variable (c : Config) (a b : Octets) (nameA nameB : String)

theorem lines_two :
    ((Step.two a b nameA nameB).lines c).map (fun l => l.value.value % 256 ^ c.width) =
      (combinations c.width a.value b.value).map (residue c.width) := by
  have h := reportTwo_mod (c.width_le_length_widen a) (c.width_le_length_widen b) nameA nameB
  rwa [c.value_widen, c.value_widen] at h

theorem denotes_rows_two :
    List.Forall₂ (fun row z => row.cells.Denotes c.width (residue c.width z))
      ((Step.two a b nameA nameB).rows c) (combinations c.width a.value b.value) := by
  have hvalues := lines_two c a b nameA nameB
  rw [← List.forall₂_eq_eq_eq, List.forall₂_map_left_iff, List.forall₂_map_right_iff] at hvalues
  rw [rows, List.forall₂_map_left_iff]
  refine hvalues.imp fun l z h => ?_
  rw [← h]
  exact Octets.denotes_cells c.width_le l.value

/-- Operands cut to the width have the same digits. -/
theorem digits_rows_two_truncate :
    ((Step.two (a.truncate c.width) (b.truncate c.width) nameA nameB).rows c).map (·.cells.digits) =
      ((Step.two a b nameA nameB).rows c).map (·.cells.digits) := by
  have hvalues : ((Step.two (a.truncate c.width) (b.truncate c.width) nameA nameB).lines c).map
        (fun l => l.value.value % 256 ^ c.width) =
      ((Step.two a b nameA nameB).lines c).map (fun l => l.value.value % 256 ^ c.width) := by
    rw [lines_two, lines_two, Octets.value_truncate, Octets.value_truncate, residue_combinations]
  rw [← List.forall₂_eq_eq_eq, List.forall₂_map_left_iff, List.forall₂_map_right_iff] at hvalues
  rw [rows, rows, List.map_map, List.map_map, ← List.forall₂_eq_eq_eq, List.forall₂_map_left_iff,
    List.forall₂_map_right_iff]
  refine hvalues.imp fun l l' h => ?_
  show (l.value.cells c.width c.cap).digits = (l'.value.cells c.width c.cap).digits
  exact Octets.digits_cells_congr c.width_le l.value l'.value h

end Step

namespace Sheet

/-- **The report on two numbers is right modulo the declared width**: on any sheet it appends eleven
    rows, whose cells denote the combinations of both numbers modulo `256 ^ w`; and the digits are
    those of the numbers cut to `w` bytes. -/
theorem rows_two (c : Config) (steps : List Step) (a b : Octets) (nameA nameB : String) :
    let s := ofSteps c steps
    let w := s.width
    ∃ rows rows' : List Row,
      (s.apply (.two a b nameA nameB)).rows = s.rows ++ rows ∧ rows.length = 11 ∧
      List.Forall₂ (fun row z => row.cells.Denotes w (residue w z)) rows
        (combinations w a.value b.value) ∧
      (s.apply (.two (a.truncate w) (b.truncate w) nameA nameB)).rows = s.rows ++ rows' ∧
      rows'.map (·.cells.digits) = rows.map (·.cells.digits) := by
  intro s w
  have hconfig : s.config = c := config_ofSteps c steps
  have hw : w = c.width := congrArg Config.width hconfig
  refine ⟨(Step.two a b nameA nameB).rows c,
    (Step.two (a.truncate w) (b.truncate w) nameA nameB).rows c, ?_, rfl, ?_, ?_, ?_⟩
  · rw [rows_apply, hconfig]
  · rw [hw]
    exact Step.denotes_rows_two c a b nameA nameB
  · rw [rows_apply, hconfig]
  · rw [hw]
    exact Step.digits_rows_two_truncate c a b nameA nameB

end Sheet

end Tribase
