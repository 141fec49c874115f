import Tribase.Proofs.Octets.Reorder
import Tribase.Proofs.Sheet.Run

/-!
# The report on a number

Every value of the report is taken from the operand at its own length, filled up to the declared
width; only then it is brought to the width. So complement, negative, leading zeros and reorderings
are those of an operand of `max a.length w` bytes, and a loss is told from the whole value.

* `aspects W v` are the integers that the report stands for, of a number `v` in `W` bytes;
* `reportOne_values`: the values of the report are these integers;
* **`rows_one`**: the ten rows that the report appends to any sheet show them.
-/

namespace Tribase

/-- The integers that the report on a number stands for, in the order of its rows, where the number
    is `v` in `W` bytes. -/
def aspects (W v : Nat) : List Nat :=
  [v, 256 ^ W - 1 - v, (256 ^ W - v) % 256 ^ W,
   v.bitIndices.length, 8 * W - v.size, v.size,
   moveBits (fun p => 8 * W - 1 - p) v,
   moveBits (fun p => 8 * (p / 8) + (7 - p % 8)) v,
   moveBits (fun p => 8 * (W - 1 - p / 8) + p % 8) v,
   moveBits (fun p => 8 * (p / 8) + (p % 8 + 4) % 8) v]

/-- **The values of the report** are those integers. -/
theorem reportOne_values (a : Octets) (name : String) :
    (reportOne a name).map (·.value.value) = aspects a.length a.value := by
  have hcomplement : a.complement.value = 256 ^ a.length - 1 - a.value := by
    rw [Octets.value_complement, Nat.add_comm, Nat.sub_sub]
  have hones : a.popcount.value = a.value.bitIndices.length := by
    rw [Octets.popcount, Octets.value_ofNat, Octets.onesCount_eq]
  have hzeros : a.clz.value = 8 * a.length - a.value.size := by
    rw [Octets.clz, Octets.value_ofNat, Octets.leadingZeros_eq]
  have hbits : a.nbits.value = a.value.size := by
    rw [Octets.nbits, Octets.value_ofNat, Octets.bitLength_eq]
  simp only [reportOne, aspects, List.map_cons, List.map_nil, hcomplement, a.value_negate, hones,
    hzeros, hbits, a.value_reverseBitstring, a.value_reverseBits, a.value_reverseBytes,
    a.value_swapNibbles]

theorem Step.lines_one (c : Config) (a : Octets) (name : String) :
    ((Step.one a name).lines c).map (·.value.value) = aspects (max a.length c.width) a.value := by
  rw [lines, reportOne_values, c.length_widen, c.value_widen]

namespace Sheet

/-- **The report on a number is right at the width of the operand**: on any sheet it appends ten
    rows, which show the integers of the report at the declared width `w`, taken of the number in
    `max a.length w` bytes. -/
theorem rows_one (c : Config) (steps : List Step) (a : Octets) (name : String) :
    let s := ofSteps c steps
    let w := s.width
    ∃ rows : List Row,
      (s.apply (.one a name)).rows = s.rows ++ rows ∧ rows.length = 10 ∧
      List.Forall₂ (fun row r => row.cells.Shows w r) rows (aspects (max a.length w) a.value) := by
  intro s w
  have hconfig : s.config = c := config_ofSteps c steps
  have hw : w = c.width := width_ofSteps c steps
  refine ⟨(Step.one a name).rows c, ?_, rfl, ?_⟩
  · rw [rows_apply, hconfig]
  · have hshows := (Step.one a name).shows_rows c
    rwa [Step.lines_one, ← hw] at hshows

end Sheet

end Tribase
