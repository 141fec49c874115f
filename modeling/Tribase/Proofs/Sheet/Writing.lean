import Tribase.Sheet.Layout

/-!
# Writing a sheet

A sheet is written by calls of a writer, one for each blank, each cell and each line end. The writer
can fail at any of them, and then no call follows.

* `Sheet.pieces`, `Sheet.calls`: the texts that the writer is called with, cell by cell and one
  after another;
* **`Sheet.render_eq_forM`**: whatever the writer, these calls are all that is done to it;
* **`Sheet.toList_text`**: together they are the text of the sheet;
* `Desk`: a sheet and a writer side by side, and the calls that the writer has had;
* `Desk.run_render`: the writer is called up to its first failure, and the sheet stays as it is;
* `Sink.run_forM`: what a writer with limited room takes of a run of calls;
* **`render_limited`**: a sheet that is written into limited room.
-/

namespace Tribase

/-! ## 1. The calls -/

/-- The texts that a cell is written by. -/
def cellCalls (width : Nat) (cell : String) : List String :=
  List.replicate (width - cell.length) " " ++ [cell]

/-- The texts that a line is written by, for each cell and for the line end. -/
def linePieces (widths : List Nat) (cells : List String) : List (List String) :=
  List.zipWith (fun w cell => cellCalls (w + columnGap) cell) widths cells ++ [["\n"]]

/-- The texts that a sheet is written by, cell by cell. -/
def Sheet.pieces (s : Sheet) : List (List String) :=
  s.grid.flatMap (linePieces s.widths)

/-- The texts that a sheet is written by, one after another. -/
def Sheet.calls (s : Sheet) : List String :=
  s.pieces.flatten

section

variable {m : Type → Type} [Monad m] [LawfulMonad m] (write : String → m Unit)

theorem forM_flatMap {α : Type} (l : List α) (texts : α → List String) :
    forM (l.flatMap texts) write = forM l fun a => forM (texts a) write := by
  induction l with
  | nil => rfl
  | cons a l ih => rw [List.flatMap_cons, List.forM_append, List.forM_cons, ih]

theorem renderCell_eq_forM (width : Nat) (cell : String) :
    renderCell write width cell = forM (cellCalls width cell) write := by
  rw [renderCell, cellCalls, List.forM_append, List.forM_eq_forM, List.forM_cons, List.forM_nil,
    bind_pure]

theorem renderLine_eq_forM (widths : List Nat) (cells : List String) :
    renderLine write widths cells = forM (linePieces widths cells).flatten write := by
  have hcells : (List.zipWith (fun w cell => cellCalls (w + columnGap) cell) widths cells).flatten =
      (widths.zip cells).flatMap fun p => cellCalls (p.1 + columnGap) p.2 := by
    rw [← List.map_uncurry_zip_eq_zipWith, ← List.flatMap_def]
    rfl
  rw [linePieces, List.flatten_append, List.forM_append, hcells, forM_flatMap]
  simp only [renderLine, renderCell_eq_forM, List.forM_eq_forM, List.flatten_cons,
    List.flatten_nil, List.append_nil, List.forM_cons, List.forM_nil]
  rw [bind_pure]

/-- **All that is done to a writer are the calls**, one after another. -/
theorem Sheet.render_eq_forM (s : Sheet) : s.render write = forM s.calls write := by
  have hcalls : s.calls = s.grid.flatMap fun cells => (linePieces s.widths cells).flatten := by
    rw [calls, pieces, List.flatMap_def, List.flatten_flatten, List.map_map, ← List.flatMap_def]
    rfl
  rw [hcalls, forM_flatMap, render, List.forM_eq_forM]
  exact congrArg (forM s.grid) (funext fun cells => renderLine_eq_forM write s.widths cells)

end

/-- A string takes every call behind what it holds. -/
theorem run_forM_append (texts : List String) (held : String) :
    ((forM texts fun text => modify (· ++ text) : StateM String Unit).run held).2 =
      held ++ String.join texts := by
  induction texts generalizing held with
  | nil => exact (String.append_empty).symm
  | cons text texts ih =>
    rw [List.forM_cons, String.join_cons, ← String.append_assoc]
    exact ih (held ++ text)

/-- **The calls make up the text.** -/
theorem Sheet.toList_text (s : Sheet) : s.text.toList = s.calls.flatMap String.toList := by
  rw [text, s.render_eq_forM, run_forM_append, String.empty_append, String.toList_join]

/-! ## 2. Any writer -/

section

variable {σ τ : Type}

/-- Whether a run has succeeded. -/
def succeeded : EStateM.Result Unit σ Unit → Bool
  | .ok _ _ => true
  | .error _ _ => false

/-- The same end of a run, in another state. -/
def mapState (f : σ → τ) : EStateM.Result Unit σ Unit → EStateM.Result Unit τ Unit
  | .ok u w => .ok u (f w)
  | .error e w => .error e (f w)

variable {p : Prop} [Decidable p]

@[simp] theorem succeeded_ite (w : σ) :
    succeeded (if p then .ok () w else .error () w) = decide p := by
  split <;> simp [succeeded, *]

@[simp] theorem mapState_ite (f : σ → τ) (w : σ) :
    mapState f (if p then .ok () w else .error () w) =
      if p then .ok () (f w) else .error () (f w) := by
  split <;> rfl

end

/-- A sheet and a writer side by side, and the calls that the writer has had: the text of each, and
    whether it was granted. -/
structure Desk (σ : Type) where
  sheet : Sheet
  writer : σ
  heard : List (String × Bool) := []

/-- What a writer hears of the texts that it is to be called with: all of them and each is granted,
    or those up to the first that is refused. -/
inductive Hears (texts : List String) : Bool → List (String × Bool) → Prop where
  | all : Hears texts true (texts.map (·, true))
  | cut (granted : List String) (refused : String) (rest : List String)
      (h : texts = granted ++ refused :: rest) :
      Hears texts false (granted.map (·, true) ++ [(refused, false)])

theorem Hears.cons {texts : List String} {ok : Bool} {heard : List (String × Bool)}
    (h : Hears texts ok heard) (text : String) :
    Hears (text :: texts) ok ((text, true) :: heard) := by
  cases h with
  | all => exact .all
  | cut granted refused rest h => exact .cut (text :: granted) refused rest (congrArg (text :: ·) h)

namespace Desk

variable {σ : Type} (put : String → EStateM Unit σ Unit)

/-- A call of the writer, noted down with its answer. -/
def write (text : String) : EStateM Unit (Desk σ) Unit := fun d =>
  let answer := (put text).run d.writer
  mapState (fun w => ⟨d.sheet, w, d.heard ++ [(text, succeeded answer)]⟩) answer

/-- Writes the sheet that lies there. -/
def render : EStateM Unit (Desk σ) Unit := do
  (← get).sheet.render (write put)

theorem run_write (text : String) (d : Desk σ) :
    (write put text).run d =
      mapState (fun w => ⟨d.sheet, w, d.heard ++ [(text, succeeded ((put text).run d.writer))]⟩)
        ((put text).run d.writer) := rfl

/-- **A run of calls beside a sheet.** The writer is left as by the calls alone, it has heard of
    them up to the first that it refused, and the sheet is the same. -/
theorem run_forM_write (s : Sheet) (texts : List String) (w : σ) (before : List (String × Bool)) :
    ∃ heard, Hears texts (succeeded ((forM texts put).run w)) heard ∧
      (forM texts (write put)).run ⟨s, w, before⟩ =
        mapState (⟨s, ·, before ++ heard⟩) ((forM texts put).run w) := by
  induction texts generalizing w before with
  | nil => exact ⟨[], .all, by rw [List.append_nil]; rfl⟩
  | cons text texts ih =>
    rw [List.forM_cons, List.forM_cons, EStateM.run_bind, EStateM.run_bind, run_write]
    cases hput : (put text).run w with
    | error e w' => exact ⟨[(text, false)], .cut [] text texts rfl, rfl⟩
    | ok u w' =>
      obtain ⟨heard, hhears, hrun⟩ := ih w' (before ++ [(text, true)])
      rw [List.append_assoc, List.singleton_append] at hrun
      exact ⟨(text, true) :: heard, hhears.cons text, hrun⟩

/-- **Whatever the writer**: it hears of the calls up to its first failure, it is left as by the
    sheet alone, and the sheet is the same. -/
theorem run_render (s : Sheet) (w : σ) :
    ∃ heard, Hears s.calls (succeeded ((s.render put).run w)) heard ∧
      (render put).run ⟨s, w, []⟩ = mapState (⟨s, ·, heard⟩) ((s.render put).run w) := by
  have hrun := run_forM_write put s s.calls w []
  rw [← s.render_eq_forM, ← s.render_eq_forM] at hrun
  exact hrun

end Desk

/-! ## 3. Limited room -/

namespace Sink

variable {text taken : String} {room : Nat}

/-- A call fails where it leaves no room, and only there. -/
theorem run_write (s : Sink) (text : String) :
    (write text).run s =
      if (s.take text).room.isSome then .ok () (s.take text) else .error () (s.take text) := by
  show (if (s.take text).room.isNone then throw () else pure () : EStateM Unit Sink Unit).run
    (s.take text) = _
  cases (s.take text).room <;> rfl

theorem run_write_of_le (h : text.length ≤ room) :
    (write text).run ⟨some room, taken⟩ = .ok () ⟨some (room - text.length), taken ++ text⟩ := by
  have hall : text.toList.take room = text.toList :=
    List.take_of_length_le (by rwa [String.length_toList])
  have htake : take ⟨some room, taken⟩ text = ⟨some (room - text.length), taken ++ text⟩ := by
    simp only [take, if_pos h, hall, String.ofList_toList]
  rw [run_write, htake]
  rfl

theorem run_write_of_lt (h : room < text.length) :
    (write text).run ⟨some room, taken⟩ =
      .error () ⟨none, taken ++ String.ofList (text.toList.take room)⟩ := by
  have htake : take ⟨some room, taken⟩ text =
      ⟨none, taken ++ String.ofList (text.toList.take room)⟩ := by
    simp only [take, if_neg (Nat.not_le_of_lt h)]
  rw [run_write, htake]
  rfl

/-- **A run of calls into limited room**: of all their characters the first are taken, and the run
    succeeds where that is all of them. -/
theorem run_forM (texts : List String) (room : Nat) (taken : String) :
    ∃ after : Sink,
      (forM texts write).run ⟨some room, taken⟩ =
        (if (texts.flatMap String.toList).length ≤ room then .ok () after else .error () after) ∧
      after.taken.toList = taken.toList ++ (texts.flatMap String.toList).take room := by
  induction texts generalizing room taken with
  | nil => exact ⟨⟨some room, taken⟩, rfl, by simp⟩
  | cons text texts ih =>
    rw [List.forM_cons, EStateM.run_bind, List.flatMap_cons, List.length_append,
      String.length_toList]
    by_cases hfits : text.length ≤ room
    · -- the text fits, and the rest is written into the room that it leaves
      obtain ⟨after, hrun, htaken⟩ := ih (room - text.length) (taken ++ text)
      rw [run_write_of_le hfits]
      refine ⟨after, ?_, ?_⟩
      · simp only [hrun, Nat.le_sub_iff_add_le hfits, Nat.add_comm]
      · have hall : text.toList.take room = text.toList :=
          List.take_of_length_le (by rwa [String.length_toList])
        rw [htaken, String.toList_append, List.append_assoc, List.take_append, hall,
          String.length_toList]
    · have hlt : room < text.length := Nat.lt_of_not_le hfits
      have hover : ¬ text.length + (texts.flatMap String.toList).length ≤ room := by omega
      rw [run_write_of_lt hlt]
      refine ⟨_, (if_neg hover).symm, ?_⟩
      have hle : room ≤ text.toList.length := String.length_toList ▸ Nat.le_of_lt hlt
      rw [String.toList_append, String.toList_ofList, List.take_append_of_le_length hle]

end Sink

/-! ## 4. A sheet in limited room -/

namespace Sheet

theorem run_render_sink (s : Sheet) (n : Nat) :
    ∃ after : Sink,
      (s.render Sink.write).run { room := some n } =
        (if s.text.length ≤ n then .ok () after else .error () after) ∧
      after.taken.toList = s.text.toList.take n := by
  have hrun := Sink.run_forM s.calls n ""
  rw [← s.render_eq_forM, ← s.toList_text, String.length_toList] at hrun
  exact hrun

/-- **A sheet that is written into room for `n` characters.** The writer has taken the first `n`
    characters of the text, and the writing succeeds where that is all of it. It was called with
    nothing after the first call that it refused, and the sheet is the same. -/
theorem render_limited (c : Config) (steps : List Step) (n : Nat) :
    let s := ofSteps c steps
    ∃ after : Desk Sink,
      (Desk.render Sink.write).run ⟨s, { room := some n }, []⟩ =
        (if s.text.length ≤ n then .ok () after else .error () after) ∧
      after.writer.taken.toList = s.text.toList.take n ∧
      Hears s.calls (s.text.length ≤ n) after.heard ∧
      after.sheet = s ∧
      s.writeLimited n = (after.writer.taken, decide (s.text.length ≤ n)) := by
  intro s
  obtain ⟨sink, hsink, htaken⟩ := s.run_render_sink n
  obtain ⟨heard, hhears, hdesk⟩ := Desk.run_render Sink.write s { room := some n }
  rw [hsink, succeeded_ite] at hhears
  rw [hsink, mapState_ite] at hdesk
  refine ⟨⟨s, sink, heard⟩, hdesk, htaken, hhears, rfl, ?_⟩
  rw [writeLimited, hsink]
  by_cases hfits : s.text.length ≤ n
  · rw [if_pos hfits, decide_eq_true hfits]
  · rw [if_neg hfits, decide_eq_false hfits]

end Sheet

end Tribase
