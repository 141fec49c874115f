import Tribase.Log.Filter
import Tribase.Proofs.Numeral.Literal
import Tribase.Proofs.Sheet.Run

/-!
# The log of a sheet

The log of a run goes along with its rows: after one or two entries about the sheet there is one for
each row, and in front of it one more where the row does not show its whole value. Each entry is
emitted or not as it comes up, whatever was emitted before; so what is emitted under a threshold is
what the threshold keeps of the whole log.

* `Entry.capped`, `Entry.made`, `Entry.lost`, `Entry.shown` are the entries of a sheet;
* `Row.emitted`, `Step.emitted`, `Sheet.emitted`: which of them a row, a step and a sheet leave in
  the log under a threshold;
* `Line.log_passes`, `Step.log_passes`, `log_passes`: that this is what one line, one step and a run
  emit;
* `Line.log_eq_filter`, `Step.log_eq_filter`, `log_eq_filter`: emitting under a condition is
  filtering the whole log afterwards;
* **`runLog_mirrors_rows`**: the whole log, entry by entry.
-/

namespace Tribase

/-! ## 1. Entries -/

namespace Entry

/-- The declared width is beyond the cap. -/
def capped (c : Config) : Entry :=
  ⟨.warn, .sheet, "width of " ++ toString c.bits ++ " bits exceeds the padding limit of " ++
    c.cap.describe ++ ", capping it"⟩

/-- A sheet of `w` bytes. -/
def made (w : Nat) : Entry :=
  ⟨.debug, .sheet, "new table with a width of " ++ toString w ++ " bytes"⟩

/-- A value that does not fit in `w` bytes, with the label of its row and as it was before it was
    cut. -/
def lost (w : Nat) (label : String) (value : Octets) : Entry :=
  ⟨.debug, .sheet, "`" ++ label ++ "` = " ++ value.format .lowerHex { mark := true } ++
    " does not fit in " ++ toString w ++ " bytes"⟩

/-- A row, with its label and its three cells. -/
def shown (row : Row) : Entry :=
  ⟨.trace, .sheet, "row `" ++ row.label ++ "`: " ++ row.cells.dec ++ " " ++ row.cells.hex ++ " " ++
    row.cells.bin⟩

end Entry

/-- What an entry leaves in the log under a threshold: itself, where its level is admitted. -/
def Threshold.emit (t : Threshold) (e : Entry) : List Entry :=
  if t.admits e.level then [e] else []

/-- What a row of `w` bytes leaves in the log, where `value` is what it was made of. -/
def Row.emitted (t : Threshold) (w : Nat) (row : Row) (value : Octets) : List Entry :=
  (if row.cells.lossy then t.emit (.lost w row.label value) else []) ++ t.emit (.shown row)

/-- What a step leaves in the log: the entries of its rows, in their order. -/
def Step.emitted (t : Threshold) (c : Config) (step : Step) : List Entry :=
  (List.zipWith (Row.emitted t c.width) (step.rows c) ((step.lines c).map (·.value))).flatten

/-- What a sheet leaves in the log, where `values` are what its rows were made of. -/
def Sheet.emitted (t : Threshold) (s : Sheet) (values : List Octets) : List Entry :=
  (if s.config.cap.bytes < (s.config.bits + 7) / 8 then t.emit (.capped s.config) else []) ++
    t.emit (.made s.width) ++ (List.zipWith (Row.emitted t s.width) s.rows values).flatten

/-! ## 2. Thresholds and filters -/

/-- The entries that a threshold keeps, in order. -/
def Threshold.keep (t : Threshold) (entries : List Entry) : List Entry :=
  entries.filter t.passes

/-- The entries that a filter keeps, in order. -/
def LogFilter.keep (f : LogFilter) (entries : List Entry) : List Entry :=
  entries.filter f.admits

namespace Entry

section

variable {p : Prop} [Decidable p] {e first second : Entry} (passes : Entry → Bool)

theorem emit_eq_filter : e.emit passes = (e.emit fun _ => true).filter passes := by
  rw [emit, emit, if_pos rfl, List.filter_cons, List.filter_nil]

/-- An entry under a condition and one without: each is decided on by itself. -/
theorem emit_ite_append :
    (if p then first.emit passes else []) ++ second.emit passes =
      ((if p then first.emit fun _ => true else []) ++
        second.emit fun _ => true).filter passes := by
  rw [List.filter_append, ← emit_eq_filter]
  by_cases hp : p
  · rw [if_pos hp, if_pos hp, ← emit_eq_filter]
  · rw [if_neg hp, if_neg hp, List.filter_nil]

variable {passes}

theorem eq_of_mem_emit (h : e ∈ first.emit passes) : e = first := by
  unfold emit at h
  split at h
  · exact List.mem_singleton.mp h
  · cases h

theorem eq_or_eq_of_mem (h : e ∈ (if p then first.emit passes else []) ++ second.emit passes) :
    e = first ∨ e = second := by
  rcases List.mem_append.mp h with h | h
  · split at h
    · exact .inl (eq_of_mem_emit h)
    · cases h
  · exact .inr (eq_of_mem_emit h)

end

end Entry

/-- The most verbose threshold lets everything pass. -/
theorem Threshold.passes_trace : (upTo .trace).passes = fun _ => true := by
  have hall : ∀ l : Level, (upTo .trace).admits l = true := by
    intro l
    cases l <;> rfl
  exact funext fun e => hall e.level

/-- The threshold that a filter sets for a part of the program; without any, nothing passes. -/
def LogFilter.threshold (f : LogFilter) (part : Origin) : Threshold :=
  ((f.deciding? part.name).map Directive.threshold).getD .off

theorem LogFilter.admits_eq (f : LogFilter) (e : Entry) :
    f.admits e = ((f.threshold e.origin).admits e.level &&
      f.pattern?.all fun p => p.accepts e.message) := by
  unfold admits threshold
  cases f.deciding? e.origin.name <;> cases f.pattern? <;> rfl

/-! ## 3. One line, one step -/

/-- The marked numeral is what a line writes of its value. -/
theorem Octets.format_lowerHex_mark (x : Octets) :
    x.format .lowerHex { mark := true } = "0x" ++ x.hexDigits := by
  refine String.toList_inj.mp ?_
  rw [String.toList_append]
  exact Placement.toList_layOut_narrow { mark := true } "0x" x.hexDigits

section

variable (c : Config) (passes : Entry → Bool)

theorem Config.log_eq :
    c.log passes = (if c.cap.bytes < (c.bits + 7) / 8 then (Entry.capped c).emit passes else []) ++
      (Entry.made c.width).emit passes := by
  unfold log
  rw [PadCap.isCapped, bytesFor_eq]
  simp only [decide_eq_true_eq]
  rfl

theorem Config.log_eq_filter : c.log passes = (c.log fun _ => true).filter passes := by
  rw [log_eq, log_eq, Entry.emit_ite_append]

theorem Line.lost_eq (l : Line) : Entry.lost c.width l.label l.value =
    ⟨.debug, .sheet, s!"`{l.label}` = 0x{l.value.hexDigits} does not fit in {c.width} bytes"⟩ := by
  have hmark : "` = 0x" = "` = " ++ "0x" := by decide
  show Entry.lost c.width l.label l.value = ⟨.debug, .sheet, "`" ++ l.label ++ "` = 0x" ++
    l.value.hexDigits ++ " does not fit in " ++ toString c.width ++ " bytes"⟩
  rw [Entry.lost, Octets.format_lowerHex_mark, hmark]
  simp only [String.append_assoc]

theorem Line.log_eq (l : Line) :
    l.log c passes =
      (if (l.row c).cells.lossy then (Entry.lost c.width l.label l.value).emit passes else []) ++
        (Entry.shown (l.row c)).emit passes := by
  rw [l.lost_eq]
  rfl

theorem Line.log_eq_filter (l : Line) :
    l.log c passes = (l.log c fun _ => true).filter passes := by
  rw [log_eq, log_eq, Entry.emit_ite_append]

theorem Step.log_eq_filter (step : Step) :
    step.log c passes = (step.log c fun _ => true).filter passes := by
  rw [log, log, List.filter_flatMap]
  exact List.flatMap_congr fun l _ => l.log_eq_filter c passes

end

section

variable (t : Threshold) (c : Config)

/-- **What one line emits** under a threshold. -/
theorem Line.log_passes (l : Line) :
    l.log c t.passes = (l.row c).emitted t c.width l.value :=
  l.log_eq c t.passes

/-- **What one step emits** under a threshold. -/
theorem Step.log_passes (step : Step) : step.log c t.passes = step.emitted t c := by
  rw [log, emitted, rows, List.zipWith_map, List.zipWith_self, List.flatMap_def]
  exact congrArg List.flatten (List.map_congr_left fun l _ => l.log_passes t c)

end

/-! ## 4. Runs -/

namespace Sheet

/-- The whole log of a run: every entry passes. -/
def runLog (c : Config) (steps : List Step) : List Entry :=
  log c steps fun _ => true

/-- **Emitting is filtering**: what passes during a run is what a filter leaves of the whole log. -/
theorem log_eq_filter (c : Config) (steps : List Step) (passes : Entry → Bool) :
    log c steps passes = (runLog c steps).filter passes := by
  rw [runLog, log, log, List.filter_append, List.filter_flatMap, ← c.log_eq_filter]
  exact congrArg _ (List.flatMap_congr fun step _ => step.log_eq_filter c passes)

/-- What the rows of a run were made of, in their order. -/
def runValues (c : Config) (steps : List Step) : List Octets :=
  steps.flatMap fun step => (step.lines c).map (·.value)

/-- Every row of a run shows its own value, at the declared width. -/
theorem rows_of_runValues (c : Config) (steps : List Step) :
    List.Forall₂ (fun row value => row.cells = value.cells c.width c.cap) (ofSteps c steps).rows
      (runValues c steps) := by
  have hrows : (ofSteps c steps).rows = (steps.flatMap (·.lines c)).map (·.row c) := by
    rw [rows_ofSteps, List.map_flatMap]
    rfl
  have hvalues : runValues c steps = (steps.flatMap (·.lines c)).map (·.value) := by
    rw [List.map_flatMap]
    rfl
  rw [hrows, hvalues, List.forall₂_map_left_iff, List.forall₂_map_right_iff, List.forall₂_same]
  exact fun l _ => rfl

/-- One more step adds the entries of its rows and changes no other. -/
theorem emitted_append (t : Threshold) (c : Config) (steps : List Step) (step : Step) :
    (ofSteps c (steps ++ [step])).emitted t (runValues c (steps ++ [step])) =
      (ofSteps c steps).emitted t (runValues c steps) ++ step.emitted t c := by
  have hlen := (rows_of_runValues c steps).length_eq
  have hvalues : runValues c (steps ++ [step]) =
      runValues c steps ++ (step.lines c).map (·.value) := by
    rw [runValues, List.flatMap_append, List.flatMap_singleton]
    rfl
  unfold emitted Step.emitted
  rw [width_ofSteps, width_ofSteps, config_ofSteps, config_ofSteps, rows_ofSteps_append, hvalues,
    List.zipWith_append hlen, List.flatten_append, List.append_assoc _ _ (List.flatten _)]

/-- **What a run emits** under a threshold. -/
theorem log_passes (t : Threshold) (c : Config) (steps : List Step) :
    log c steps t.passes = (ofSteps c steps).emitted t (runValues c steps) := by
  induction steps using List.reverseRecOn with
  | nil =>
    rw [log, List.flatMap_nil, List.append_nil, c.log_eq]
    exact (List.append_nil _).symm
  | append_singleton steps step ih =>
    have hlog : log c (steps ++ [step]) t.passes =
        log c steps t.passes ++ step.log c t.passes := by
      rw [log, List.flatMap_append, List.flatMap_singleton, ← List.append_assoc]
      rfl
    rw [hlog, ih, step.log_passes, emitted_append]

theorem origin_of_mem_runLog {c : Config} {steps : List Step} {e : Entry}
    (h : e ∈ runLog c steps) : e.origin = .sheet := by
  rcases List.mem_append.mp h with h | h
  · rw [c.log_eq] at h
    rcases Entry.eq_or_eq_of_mem h with rfl | rfl <;> rfl
  · obtain ⟨step, _, h⟩ := List.mem_flatMap.mp h
    obtain ⟨l, _, h⟩ := List.mem_flatMap.mp h
    rw [l.log_eq] at h
    rcases Entry.eq_or_eq_of_mem h with rfl | rfl <;> rfl

/-- A filter treats the log of a run as one threshold does; a pattern passes on what it accepts. -/
theorem filter_keep_runLog (f : LogFilter) (c : Config) (steps : List Step) :
    f.keep (runLog c steps) = ((f.threshold .sheet).keep (runLog c steps)).filter fun e =>
      f.pattern?.all fun p => p.accepts e.message := by
  rw [LogFilter.keep, Threshold.keep, List.filter_filter]
  refine List.filter_congr fun e he => ?_
  rw [f.admits_eq, origin_of_mem_runLog he, Bool.and_comm, Threshold.passes]

/-- **The log mirrors the rows.** After any run it has a warning where the declared width, rounded
    up to bytes, is beyond the cap, one entry about the width, and for each row in turn one about
    the value it was made of, where the row is lossy, and then one with the row itself. Under any
    condition on entries the run emits what a filter leaves of this: under a threshold the entries
    at its levels, and under a filter those at the levels of its threshold that its pattern
    accepts. -/
theorem runLog_mirrors_rows (c : Config) (steps : List Step) :
    let s := ofSteps c steps
    let values := runValues c steps
    List.Forall₂ (fun row value => row.cells = value.cells s.width c.cap) s.rows values ∧
    runLog c steps = s.emitted (.upTo .trace) values ∧
    (∀ passes, log c steps passes = (runLog c steps).filter passes) ∧
    (∀ t : Threshold, log c steps t.passes = s.emitted t values ∧
      t.keep (runLog c steps) = s.emitted t values ∧
      (s.emitted t values).Sublist (runLog c steps)) ∧
    ∀ f : LogFilter, log c steps f.admits = f.keep (runLog c steps) ∧
      f.keep (runLog c steps) = (s.emitted (f.threshold .sheet) values).filter fun e =>
        f.pattern?.all fun p => p.accepts e.message := by
  intro s values
  have hemit : ∀ t : Threshold, log c steps t.passes = s.emitted t values := fun t =>
    log_passes t c steps
  have hkeep : ∀ t : Threshold, t.keep (runLog c steps) = s.emitted t values := fun t =>
    (log_eq_filter c steps t.passes).symm.trans (hemit t)
  refine ⟨?_, ?_, log_eq_filter c steps, fun t => ⟨hemit t, hkeep t, ?_⟩,
    fun f => ⟨log_eq_filter c steps f.admits, ?_⟩⟩
  · rw [show s.width = c.width from width_ofSteps c steps]
    exact rows_of_runValues c steps
  · rw [← hemit, Threshold.passes_trace]
    rfl
  · rw [← hkeep]
    exact List.filter_sublist
  · rw [← hkeep]
    exact filter_keep_runLog f c steps

end Sheet

end Tribase
