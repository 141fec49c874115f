import Mathlib.Data.List.Forall2
import Mathlib.Data.List.Induction
import Tribase.Sheet.Basic
import Tribase.Proofs.Sheet.Loss

/-!
# Runs of steps

A sheet is what its steps have appended, one after another, at a width that is fixed when it is
made. The width is within the cap, so every padding up to it is granted; fixed cell widths rest on
that, since neither a fit nor its cells ask for it.

* `width_eq`, `not_isCapped`: the declared width, and that the cap never shortens a padding to it;
* `length_widen`, `value_widen`: an operand at the declared width;
* **`Step.shows_rows`**: every row of a step shows the value of its line;
* `config_ofSteps`, **`rows_ofSteps`**: what a run of steps leaves;
* `Cells.Framed c w`: hexadecimal and binary cells for `w` bytes, and one more character in front of
  each cell where the value was lossy;
* **`run_invariant`**: all of this after any run of steps.
-/

namespace Tribase

/-! ## 1. The declared width -/

namespace Config

theorem width_le (c : Config) : c.width ≤ c.cap.bytes :=
  c.cap.clamp_le _

theorem width_eq (c : Config) : c.width = min ((c.bits + 7) / 8) c.cap.bytes := by
  rw [width, PadCap.clamp, bytesFor_eq]

/-- A padding up to the declared width is granted as a whole. -/
theorem not_isCapped (c : Config) (n : Nat) : c.cap.isCapped (c.width - n) = false := by
  have hle := c.width_le
  rw [PadCap.isCapped, decide_eq_false_iff_not]
  omega

theorem length_widen (c : Config) (x : Octets) : (c.widen x).length = max x.length c.width := by
  have hle := c.width_le
  obtain ⟨hlen, _⟩ := x.length_value_padded c.width c.cap
  rw [widen, hlen]
  omega

@[simp] theorem value_widen (c : Config) (x : Octets) : (c.widen x).value = x.value :=
  (x.length_value_padded c.width c.cap).2

theorem width_le_length_widen (c : Config) (x : Octets) : c.width ≤ (c.widen x).length :=
  (Nat.le_max_right _ _).trans_eq (c.length_widen x).symm

end Config

/-! ## 2. The rows of a step -/

theorem Line.shows_row (l : Line) (c : Config) : (l.row c).cells.Shows c.width l.value.value :=
  Octets.shows_cells c.width_le l.value

/-- **Every row of a step shows the value of its line.** -/
theorem Step.shows_rows (c : Config) (step : Step) :
    List.Forall₂ (fun row n => row.cells.Shows c.width n) (step.rows c)
      ((step.lines c).map (·.value.value)) := by
  rw [rows, List.forall₂_map_left_iff, List.forall₂_map_right_iff, List.forall₂_same]
  exact fun l _ => l.shows_row c

/-! ## 3. Runs -/

namespace Sheet

/-- Steps do not change the declared width. -/
theorem config_ofSteps (c : Config) (steps : List Step) : (ofSteps c steps).config = c := by
  have h : ∀ s : Sheet, (steps.foldl apply s).config = s.config := by
    induction steps with
    | nil => exact fun _ => rfl
    | cons step steps ih => exact fun s => (ih (s.apply step)).trans (s.config_apply step)
  exact h (new c)

theorem width_ofSteps (c : Config) (steps : List Step) : (ofSteps c steps).width = c.width :=
  congrArg Config.width (config_ofSteps c steps)

/-- One more step appends its rows, which the rows before them do not enter. -/
theorem rows_ofSteps_append (c : Config) (steps : List Step) (step : Step) :
    (ofSteps c (steps ++ [step])).rows = (ofSteps c steps).rows ++ step.rows c := by
  rw [ofSteps, List.foldl_concat, ← ofSteps, rows_apply, config_ofSteps]

/-- **The rows of a run** are those of its steps, in their order. -/
theorem rows_ofSteps (c : Config) (steps : List Step) :
    (ofSteps c steps).rows = steps.flatMap (·.rows c) := by
  -- from the last step on, since a step only sees the sheet before it
  induction steps using List.reverseRecOn with
  | nil => rfl
  | append_singleton steps step ih =>
    rw [rows_ofSteps_append, ih, List.flatMap_append, List.flatMap_singleton]

theorem exists_line_of_mem {c : Config} {steps : List Step} {row : Row}
    (h : row ∈ (ofSteps c steps).rows) : ∃ step ∈ steps, ∃ l ∈ step.lines c, row = l.row c := by
  rw [rows_ofSteps] at h
  obtain ⟨step, hstep, hrow⟩ := List.mem_flatMap.mp h
  obtain ⟨l, hl, rfl⟩ := List.mem_map.mp hrow
  exact ⟨step, hstep, l, hl, rfl⟩

theorem exists_shows_of_mem {c : Config} {steps : List Step} {row : Row}
    (h : row ∈ (ofSteps c steps).rows) : ∃ n, row.cells.Shows c.width n := by
  obtain ⟨_, _, l, _, rfl⟩ := exists_line_of_mem h
  exact ⟨l.value.value, l.shows_row c⟩

end Sheet

/-! ## 4. The invariant -/

namespace Cells

/-- The cells have the characters of `w` bytes in hexadecimal and in binary, and the mark of a loss
    in front of each of the three where the value was lossy. -/
structure Framed (c : Cells) (w : Nat) : Prop where
  hex : c.hex.length = 2 + 2 * w + c.lossy.toNat
  bin : c.bin.length = 2 + 8 * w + c.lossy.toNat
  marked : ∀ text ∈ [c.dec, c.hex, c.bin], Marked c.lossy text

theorem Shows.framed {c : Cells} {w n : Nat} (h : c.Shows w n) : c.Framed w := by
  obtain ⟨hexDigits, hhex, _, hhexLen⟩ := h.denotes.hex
  obtain ⟨binDigits, hbin, _, hbinLen⟩ := h.denotes.bin
  refine ⟨?_, ?_, h.marked⟩
  · rw [(h.marked c.hex (by simp)).length_eq, hhex, List.length_cons, List.length_cons, hhexLen]
    omega
  · rw [(h.marked c.bin (by simp)).length_eq, hbin, List.length_cons, List.length_cons, hbinLen]
    omega

end Cells

namespace Sheet

/-- **After any run of steps** the width is the declared one, rounded up and capped; a step appends
    rows that depend on it and on the configuration only; paddings are never capped; and the cells
    of every row are as wide as the width asks, but for the mark of a loss. -/
theorem run_invariant (c : Config) :
    (∀ steps, (ofSteps c steps).width = min ((c.bits + 7) / 8) c.cap.bytes) ∧
    (∀ step, ∃ added, ∀ steps,
      (ofSteps c (steps ++ [step])).rows = (ofSteps c steps).rows ++ added) ∧
    (∀ steps (x : Octets), c.cap.isCapped ((ofSteps c steps).width - x.length) = false) ∧
    ∀ steps, ∀ row ∈ (ofSteps c steps).rows, row.cells.Framed (ofSteps c steps).width := by
  refine ⟨fun steps => ?_, fun step => ⟨step.rows c, fun steps => ?_⟩, fun steps x => ?_,
    fun steps row hrow => ?_⟩
  · rw [width_ofSteps, c.width_eq]
  · exact rows_ofSteps_append c steps step
  · rw [width_ofSteps]
    exact c.not_isCapped x.length
  · obtain ⟨n, hshows⟩ := exists_shows_of_mem hrow
    rw [width_ofSteps]
    exact hshows.framed

/-- A width that is capped to one byte, and a row that does not fit in it. -/
theorem run_invariant_capped :
    let c : Config := ⟨17, ⟨1⟩⟩
    let x : Line := ⟨"x", ⟨[1, 255]⟩⟩
    x.row c ∈ (ofSteps c [.add "x" ⟨[1, 255]⟩]).rows ∧ (x.row c).cells.lossy = true ∧
      (x.row c).cells.Framed 1 := by
  intro c x
  have hwidth : (ofSteps c [.add "x" ⟨[1, 255]⟩]).width = 1 := by decide
  have hmem : x.row c ∈ (ofSteps c [.add "x" ⟨[1, 255]⟩]).rows := List.mem_singleton.mpr rfl
  have hframed := (run_invariant c).2.2.2 _ _ hmem
  rw [hwidth] at hframed
  exact ⟨hmem, by decide, hframed⟩

end Sheet

end Tribase
