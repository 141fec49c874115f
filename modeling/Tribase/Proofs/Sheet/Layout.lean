import Mathlib.Data.String.Basic
import Tribase.Proofs.Sheet.Run
import Tribase.Proofs.Sheet.Writing

/-!
# The layout of a sheet

The width of a column is taken in bytes, and its cells are filled up by characters. No cell has more
characters than bytes, so the lines come out equally long all the same. But where the longest cells
of a column, in bytes, are not ASCII, the column is wider than its cells ask for.

* `length_le_utf8ByteSize`, `utf8ByteSize_eq_length_iff`: characters against bytes;
* `getElem?_widths`: the pass over all rows finds the greatest number of bytes of each column;
* `SetWith s blanks`: how many blanks are written in front of each cell, and `setWith_mostBytes`,
  `SetWith.unique`: how many these are;
* **`text_layout`**: what is written of any sheet, line by line;
* `Tight s j`: the widest cells of a column have three blanks in front of them;
* **`tight_columns`**: which columns are so.
-/

namespace Tribase

/-! ## 1. Characters and bytes -/

/-- The text has characters of one byte only. -/
def IsAscii (text : String) : Prop :=
  ∀ c ∈ text.toList, c.toNat < 128

-- decided along the text; there are too many characters to go through all of them
instance (text : String) : Decidable (IsAscii text) :=
  List.decidableBAll (fun c : Char => c.toNat < 128) text.toList

theorem length_utf8Len (cs : List Char) :
    cs.length ≤ String.utf8Len cs ∧
      (String.utf8Len cs = cs.length ↔ ∀ c ∈ cs, c.toNat < 128) := by
  induction cs with
  | nil => simp [String.utf8Len]
  | cons c cs ih =>
    obtain ⟨hle, hiff⟩ := ih
    have hpos := c.utf8Size_pos
    have hone : c.utf8Size = 1 ↔ c.toNat < 128 :=
      Char.utf8Size_eq_one_iff.trans (UInt32.le_iff_toNat_le.trans Nat.lt_succ_iff.symm)
    rw [String.utf8Len, List.length_cons, List.forall_mem_cons, ← hiff, ← hone]
    omega

theorem utf8ByteSize_eq_utf8Len (text : String) :
    text.utf8ByteSize = String.utf8Len text.toList := by
  rw [← String.utf8ByteSize_ofList, String.ofList_toList]

/-- A character takes at least one byte. -/
theorem length_le_utf8ByteSize (text : String) : text.length ≤ text.utf8ByteSize := by
  rw [utf8ByteSize_eq_utf8Len]
  exact (length_utf8Len text.toList).1

theorem utf8ByteSize_eq_length_iff (text : String) :
    text.utf8ByteSize = text.length ↔ IsAscii text := by
  rw [utf8ByteSize_eq_utf8Len]
  exact (length_utf8Len text.toList).2

/-- The blank, or a visible character of ASCII. -/
def Printable (c : Char) : Prop :=
  ' ' ≤ c ∧ c ≤ '~'

instance (c : Char) : Decidable (Printable c) :=
  inferInstanceAs (Decidable (' ' ≤ c ∧ c ≤ '~'))

instance (cs : List Char) : Decidable (∀ c ∈ cs, Printable c) :=
  List.decidableBAll Printable cs

theorem Printable.toNat_lt {c : Char} (h : Printable c) : c.toNat < 128 :=
  Nat.lt_of_le_of_lt (UInt32.le_iff_toNat_le.mp h.2) (by decide)

/-- The text has printable characters only. -/
def IsPrintable (text : String) : Prop :=
  ∀ c ∈ text.toList, Printable c

instance (text : String) : Decidable (IsPrintable text) :=
  List.decidableBAll Printable text.toList

theorem IsPrintable.isAscii {text : String} (h : IsPrintable text) : IsAscii text := fun c hc =>
  (h c hc).toNat_lt

theorem Spells.printable {radix n : Nat} {cs : List Char} (h : Spells radix n cs)
    (hr : radix ≤ 16) : ∀ c ∈ cs, Printable c := by
  intro c hc
  have hall : ∀ c ∈ "0123456789abcdef".toList, Printable c := by decide
  exact hall c (h.mem_lower hr c hc)

theorem isPrintable_markLoss {text : String} (h : IsPrintable text) (lossy : Bool) :
    IsPrintable (markLoss lossy text) := by
  cases lossy with
  | false => exact h
  | true =>
    intro c hc
    rw [markLoss, if_pos rfl, String.toList_ofList] at hc
    rcases List.mem_cons.mp hc with rfl | hc
    · decide
    · exact h c hc

/-- The cells of a value are printable, marked or not. -/
theorem Fit.isPrintable_cells (f : Fit) :
    ∀ text ∈ [f.cells.dec, f.cells.hex, f.cells.bin], IsPrintable text := by
  have hdec := f.bytes.shortest_decimal.spells.printable (by decide)
  have hhex := f.bytes.spells_hexBytes.1.printable (by decide)
  have hbin := f.bytes.spells_bitBytes.1.printable (by decide)
  intro text htext
  simp only [List.mem_cons, List.not_mem_nil, or_false] at htext
  rcases htext with rfl | rfl | rfl
  · exact isPrintable_markLoss hdec f.lossy
  · refine isPrintable_markLoss ?_ f.lossy
    rw [IsPrintable, f.bytes.toList_hexadecimal_length, List.forall_mem_cons, List.forall_mem_cons]
    exact ⟨by decide, by decide, hhex⟩
  · refine isPrintable_markLoss ?_ f.lossy
    rw [IsPrintable, f.bytes.toList_binary_length, List.forall_mem_cons, List.forall_mem_cons]
    exact ⟨by decide, by decide, hbin⟩

/-! ## 2. Columns -/

namespace Sheet

/-- The texts of a column, that of the header first. -/
def column (s : Sheet) (j : Nat) : List String :=
  s.grid.filterMap (·[j]?)

/-- The greatest number of bytes in a column. -/
def mostBytes (s : Sheet) (j : Nat) : Nat :=
  ((s.column j).map String.utf8ByteSize).max?.getD 0

variable {s : Sheet} {j : Nat} {cell : String} {cells : List String}

theorem mem_column : cell ∈ s.column j ↔ ∃ cells ∈ s.grid, cells[j]? = some cell :=
  List.mem_filterMap

theorem length_of_mem_grid (h : cells ∈ s.grid) : cells.length = 5 := by
  rcases List.mem_cons.mp h with rfl | h
  · rfl
  · obtain ⟨r, _, rfl⟩ := List.mem_map.mp h
    rfl

theorem utf8ByteSize_le_mostBytes (h : cell ∈ s.column j) : cell.utf8ByteSize ≤ s.mostBytes j :=
  List.le_max?_getD_of_mem (List.mem_map_of_mem h)

/-- No cell has more characters than its column has bytes. -/
theorem length_le_mostBytes (h : cell ∈ s.column j) : cell.length ≤ s.mostBytes j :=
  (length_le_utf8ByteSize cell).trans (utf8ByteSize_le_mostBytes h)

/-- The pass over lines of one length: each place keeps the greatest number seen there. -/
theorem getElem?_foldl_zipWith {lines : List (List String)} {ws : List Nat}
    (hlen : ∀ cells ∈ lines, cells.length = ws.length) (j : Nat) :
    (lines.foldl (List.zipWith fun w cell => max w cell.utf8ByteSize) ws)[j]? =
      ws[j]?.map fun w => ((lines.filterMap (·[j]?)).map String.utf8ByteSize).foldl max w := by
  induction lines generalizing ws with
  | nil => simp
  | cons cells lines ih =>
    have hcells : cells.length = ws.length := hlen cells List.mem_cons_self
    have hnext : ∀ other ∈ lines, other.length =
        (List.zipWith (fun w cell => max w cell.utf8ByteSize) ws cells).length := by
      intro other hother
      rw [List.length_zipWith, hcells, Nat.min_self]
      exact hlen other (List.mem_cons_of_mem _ hother)
    rw [List.foldl_cons, ih hnext, List.getElem?_zipWith]
    by_cases hj : j < ws.length
    · have hj' : j < cells.length := hcells ▸ hj
      have hcell : cells[j]? = some cells[j] := List.getElem?_eq_getElem hj'
      simp only [List.filterMap_cons, hcell, List.getElem?_eq_getElem hj, List.map_cons,
        List.foldl_cons, Option.map_some]
    · rw [List.getElem?_eq_none (Nat.le_of_not_lt hj)]
      rfl

/-- **The width of a column is the greatest number of bytes in it.** -/
theorem getElem?_widths (s : Sheet) (j : Nat) :
    s.widths[j]? = ((s.column j).map String.utf8ByteSize).max? := by
  have hlen : ∀ cells ∈ s.rows.map Row.columns,
      cells.length = (header.map String.utf8ByteSize).length := fun cells h =>
    length_of_mem_grid (s := s) (List.mem_cons_of_mem _ h)
  have hpass := getElem?_foldl_zipWith hlen j
  rw [List.foldl_map, List.getElem?_map] at hpass
  rw [widths, hpass, column, grid]
  cases hhead : header[j]? with
  | some text =>
    simp only [List.filterMap_cons, hhead, List.map_cons, List.max?_cons', Option.map_some]
  | none =>
    -- the rows have no more columns than the header
    have hnil : (s.rows.map Row.columns).filterMap (·[j]?) = [] := by
      rw [List.filterMap_eq_nil_iff]
      intro cells h
      rw [List.getElem?_eq_none_iff] at hhead ⊢
      exact (length_of_mem_grid (s := s) (List.mem_cons_of_mem _ h)).trans_le hhead
    simp only [List.filterMap_cons, hhead, hnil, Option.map_none, List.map_nil, List.max?_nil]

/-- A column that is not empty has a greatest cell, in either measure. -/
theorem exists_greatest (size : String → Nat) (h : cell ∈ s.column j) :
    ∃ top ∈ s.column j, ((s.column j).map size).max? = some (size top) := by
  cases hmax : ((s.column j).map size).max? with
  | none =>
    rw [List.max?_eq_none_iff, List.map_eq_nil_iff] at hmax
    exact absurd h (hmax ▸ List.not_mem_nil)
  | some n =>
    obtain ⟨top, htop, rfl⟩ := List.mem_map.mp (List.max?_eq_some_iff.mp hmax).1
    exact ⟨top, htop, rfl⟩

theorem exists_mostBytes (h : cell ∈ s.column j) :
    ∃ longest ∈ s.column j, longest.utf8ByteSize = s.mostBytes j := by
  obtain ⟨longest, hlongest, hmax⟩ := exists_greatest String.utf8ByteSize h
  refine ⟨longest, hlongest, ?_⟩
  rw [mostBytes, hmax, Option.getD_some]

theorem getElem?_widths_of_mem (h : cell ∈ s.column j) : s.widths[j]? = some (s.mostBytes j) := by
  obtain ⟨longest, _, hmax⟩ := exists_greatest String.utf8ByteSize h
  rw [getElem?_widths, mostBytes, hmax, Option.getD_some]

/-! ## 3. Lines -/

/-- The sheet is written as its cells, line by line, each with as many blanks in front of it as
    `blanks` says for its column, and a line end after each line. -/
def SetWith (s : Sheet) (blanks : Nat → String → Nat) : Prop :=
  s.pieces = s.grid.flatMap fun cells =>
    cells.mapIdx (fun j cell => List.replicate (blanks j cell) " " ++ [cell]) ++ [["\n"]]

/-- **A cell is filled up to the bytes of its column**, and three more. -/
theorem setWith_mostBytes (s : Sheet) :
    s.SetWith fun j cell => s.mostBytes j + 3 - cell.length := by
  unfold SetWith pieces
  rw [List.flatMap_def, List.flatMap_def]
  refine congrArg List.flatten (List.map_congr_left fun cells hcells => ?_)
  refine congrArg (· ++ [["\n"]]) (List.ext_getElem? fun j => ?_)
  rw [List.getElem?_zipWith, List.getElem?_mapIdx]
  cases hcell : cells[j]? with
  | none => cases s.widths[j]? <;> rfl
  | some cell =>
    rw [getElem?_widths_of_mem (mem_column.mpr ⟨cells, hcells, hcell⟩)]
    rfl

/-- Parts of equal number for each line determine the lines. -/
theorem eq_of_flatMap_eq {α β : Type} {f g : α → List β} (hlen : ∀ a, (f a).length = (g a).length) :
    ∀ {l : List α}, l.flatMap f = l.flatMap g → ∀ a ∈ l, f a = g a
  | [], _ => by simp
  | b :: l, h => by
    rw [List.flatMap_cons, List.flatMap_cons] at h
    obtain ⟨hhead, htail⟩ := List.append_inj h (hlen b)
    intro a ha
    rcases List.mem_cons.mp ha with rfl | ha
    · exact hhead
    · exact eq_of_flatMap_eq hlen htail a ha

/-- The blanks in front of a cell are determined by what is written. -/
theorem SetWith.unique {blanks blanks' : Nat → String → Nat} (h : s.SetWith blanks)
    (h' : s.SetWith blanks') (hcell : cell ∈ s.column j) : blanks j cell = blanks' j cell := by
  obtain ⟨cells, hcells, hj⟩ := mem_column.mp hcell
  -- as many parts for each line on both sides, so the lines agree one by one, and their parts
  have hlines := eq_of_flatMap_eq (fun _ => by simp) (h.symm.trans h') cells hcells
  have hparts := congrArg (·[j]?) (List.append_cancel_right hlines)
  simp only [List.getElem?_mapIdx, hj, Option.map_some, Option.some.injEq] at hparts
  have hlength := congrArg List.length (List.append_cancel_right hparts)
  rwa [List.length_replicate, List.length_replicate] at hlength

/-- A line without its line end: in each column blanks, and then the cell as it is. -/
def block (s : Sheet) (cells : List String) : List Char :=
  (cells.mapIdx fun j cell =>
    List.replicate (s.mostBytes j + 3 - cell.length) ' ' ++ cell.toList).flatten

/-- What the calls for a cell add to the text. -/
theorem flatMap_toList_blanks (n : Nat) (cell : String) :
    (List.replicate n " " ++ [cell]).flatMap String.toList = List.replicate n ' ' ++ cell.toList := by
  rw [List.flatMap_append, List.flatMap_replicate, List.flatMap_singleton]
  exact congrArg (· ++ cell.toList) List.flatten_replicate_singleton

/-- What is written, line by line. -/
theorem toList_text_eq_blocks (s : Sheet) :
    s.text.toList = s.grid.flatMap fun cells => s.block cells ++ ['\n'] := by
  have hset : s.pieces = _ := s.setWith_mostBytes
  rw [s.toList_text, calls, hset, ← List.flatMap_id, List.flatMap_assoc, List.flatMap_assoc]
  refine congrArg (List.flatMap · s.grid) (funext fun cells => ?_)
  rw [List.flatMap_append, List.flatMap_def]
  refine congrArg (List.flatten · ++ ['\n']) (List.ext_getElem? fun j => ?_)
  simp only [List.getElem?_map, List.getElem?_mapIdx, Option.map_map, Function.comp_def, id_eq,
    flatMap_toList_blanks]

/-- Every line has the same number of characters. -/
theorem length_block (h : cells ∈ s.grid) :
    (s.block cells).length = ((List.range 5).map fun j => s.mostBytes j + 3).sum := by
  rw [block, List.length_flatten]
  refine congrArg List.sum (List.ext_getElem? fun j => ?_)
  rw [List.getElem?_map, List.getElem?_mapIdx, List.getElem?_map]
  cases hcell : cells[j]? with
  | none =>
    have hj : 5 ≤ j := length_of_mem_grid h ▸ List.getElem?_eq_none_iff.mp hcell
    rw [List.getElem?_eq_none (by rwa [List.length_range])]
    rfl
  | some cell =>
    have hj : j < 5 := length_of_mem_grid h ▸ (List.getElem?_eq_some_iff.mp hcell).1
    have hle := length_le_mostBytes (mem_column.mpr ⟨cells, h, hcell⟩)
    rw [List.getElem?_range hj]
    simp only [Option.map_some, List.length_append, List.length_replicate, String.length_toList,
      Option.some.injEq]
    omega

/-- **What is written of any sheet.** Every writer gets the calls of the sheet and nothing else, and
    together they are its text: the header and then the rows, in the order in which the steps made
    them, a line each. Column `j` of a line has the whole cell and blanks in front of it, up to
    `mostBytes j + 3` characters and never fewer than three; so all lines are equally long. -/
theorem text_layout (c : Config) (steps : List Step) :
    let s := ofSteps c steps
    let lines := header :: (steps.flatMap (·.rows c)).map Row.columns
    (∀ (σ : Type) (put : String → EStateM Unit σ Unit), s.render put = forM s.calls put) ∧
    s.calls.flatMap String.toList = s.text.toList ∧
    s.text.toList = lines.flatMap (fun cells => s.block cells ++ ['\n']) ∧
    lines.length = 1 + s.rows.length ∧
    ∀ cells ∈ lines, cells.length = 5 ∧
      (∀ j cell, cells[j]? = some cell → 3 ≤ s.mostBytes j + 3 - cell.length) ∧
      (s.block cells).length = ((List.range 5).map fun j => s.mostBytes j + 3).sum := by
  intro s lines
  have hlines : s.grid = lines := by rw [grid, rows_ofSteps]
  rw [← hlines]
  refine ⟨fun σ put => s.render_eq_forM put, s.toList_text.symm, s.toList_text_eq_blocks, ?_,
    fun cells h => ⟨length_of_mem_grid h, ?_, length_block h⟩⟩
  · rw [grid, List.length_cons, List.length_map, Nat.add_comm]
  · intro j cell hcell
    have hle := length_le_mostBytes (mem_column.mpr ⟨cells, h, hcell⟩)
    omega

/-- A label of eight characters in nine bytes has more than three blanks in front of it, and its
    line is as long as the others. -/
theorem text_layout_wide_label :
    let c : Config := { bits := 8 }
    let step : Step := .add "π = 22/7" ⟨[3]⟩
    let s := ofSteps c [step]
    let cells := ((Line.mk "π = 22/7" ⟨[3]⟩).row c).columns
    s.render Sink.write = forM s.calls Sink.write ∧
      cells ∈ header :: ([step].flatMap (·.rows c)).map Row.columns ∧
      cells[0]? = some "π = 22/7" ∧ 3 ≤ 9 + 3 - "π = 22/7".length ∧
      (s.block cells).length = ((List.range 5).map fun j => s.mostBytes j + 3).sum := by
  intro c step s cells
  have hmem : cells ∈ header :: ([step].flatMap (·.rows c)).map Row.columns :=
    List.mem_cons_of_mem _ (List.mem_singleton.mpr rfl)
  have hmost : s.mostBytes 0 = 9 := by decide
  obtain ⟨hrender, _, _, _, hlines⟩ := text_layout c [step]
  obtain ⟨_, hcell, hblock⟩ := hlines cells hmem
  have hblanks := hcell 0 "π = 22/7" rfl
  rw [show (ofSteps c [step]).mostBytes 0 = 9 from hmost] at hblanks
  exact ⟨hrender Sink Sink.write, hmem, rfl, hblanks, hblock⟩

/-! ## 4. Columns without spare blanks -/

/-- The cell has the most characters of its column. -/
def IsWidest (s : Sheet) (j : Nat) (cell : String) : Prop :=
  cell ∈ s.column j ∧ ∀ other ∈ s.column j, other.length ≤ cell.length

/-- The widest cells of the column have three blanks in front of them. -/
def Tight (s : Sheet) (j : Nat) : Prop :=
  ∃ blanks, s.SetWith blanks ∧ ∀ cell, s.IsWidest j cell → blanks j cell = 3

theorem exists_isWidest (h : cell ∈ s.column j) : ∃ widest, s.IsWidest j widest := by
  obtain ⟨widest, hwidest, hmax⟩ := exists_greatest String.length h
  have hle := (List.max?_eq_some_iff.mp hmax).2
  exact ⟨widest, hwidest, fun other hother => hle _ (List.mem_map_of_mem hother)⟩

/-- One ASCII cell among the longest in bytes is enough. -/
theorem tight_of_mem {longest : String} (h : longest ∈ s.column j) (hascii : IsAscii longest)
    (hmost : longest.utf8ByteSize = s.mostBytes j) : s.Tight j := by
  refine ⟨_, s.setWith_mostBytes, fun cell ⟨hcell, hwidest⟩ => ?_⟩
  have hlen := (utf8ByteSize_eq_length_iff longest).mpr hascii
  have hle := hwidest longest h
  have hfits := length_le_mostBytes hcell
  show s.mostBytes j + 3 - cell.length = 3
  omega

/-- **A column is tight exactly where one of its longest cells, in bytes, is ASCII.** -/
theorem tight_iff (h : cell ∈ s.column j) :
    s.Tight j ↔ ∃ longest ∈ s.column j, IsAscii longest ∧ longest.utf8ByteSize = s.mostBytes j := by
  constructor
  · rintro ⟨blanks, hset, htight⟩
    obtain ⟨widest, hwidest⟩ := exists_isWidest h
    have hblanks : s.mostBytes j + 3 - widest.length = 3 :=
      (s.setWith_mostBytes.unique hset hwidest.1).trans (htight widest hwidest)
    -- as many characters as the column has bytes leave no byte over
    have hlen := length_le_utf8ByteSize widest
    have hmost := utf8ByteSize_le_mostBytes hwidest.1
    exact ⟨widest, hwidest.1, (utf8ByteSize_eq_length_iff widest).mp (by omega), by omega⟩
  · rintro ⟨longest, hmem, hascii, hmost⟩
    exact tight_of_mem hmem hascii hmost

theorem tight_of_isAscii (h : ∀ cell ∈ s.column j, IsAscii cell) : s.Tight j := by
  cases hcolumn : s.column j with
  | nil =>
    refine ⟨_, s.setWith_mostBytes, fun cell hwidest => ?_⟩
    exact absurd hwidest.1 (hcolumn ▸ List.not_mem_nil)
  | cons cell _ =>
    have hcell : cell ∈ s.column j := hcolumn ▸ List.mem_cons_self
    obtain ⟨longest, hmem, hmost⟩ := exists_mostBytes hcell
    exact tight_of_mem hmem (h longest hmem) hmost

/-- A cell of a sheet is printable, but for labels. -/
theorem isPrintable_or_label {c : Config} {steps : List Step}
    (h : cell ∈ (ofSteps c steps).column j) :
    IsPrintable cell ∨ j = 0 ∧ ∃ row ∈ (ofSteps c steps).rows, cell = row.label := by
  obtain ⟨cells, hcells, hj⟩ := mem_column.mp h
  rcases List.mem_cons.mp hcells with rfl | hcells
  · have hall : ∀ text ∈ header, IsPrintable text := by decide
    exact .inl (hall cell (List.mem_of_getElem? hj))
  · obtain ⟨row, hrow, rfl⟩ := List.mem_map.mp hcells
    cases j with
    | zero => exact .inr ⟨rfl, row, hrow, (Option.some.inj hj).symm⟩
    | succ k =>
      obtain ⟨_, _, l, _, rfl⟩ := exists_line_of_mem hrow
      have hmem : cell ∈ "|" :: [(l.row c).cells.dec, (l.row c).cells.hex, (l.row c).cells.bin] :=
        List.mem_of_getElem? hj
      rcases List.mem_cons.mp hmem with rfl | hmem
      · exact .inl (by decide)
      · exact .inl ((l.value.fit c.width c.cap).isPrintable_cells cell hmem)

/-- **Which columns are tight.** Every writer gets the cells with their blanks, and nothing else. A
    widest cell has three blanks in front of it and one more for each byte that the column has
    beyond its characters. So a column is tight exactly where one of its longest cells in bytes is
    ASCII: all columns but that of the labels, and that one too where all labels are ASCII. -/
theorem tight_columns (c : Config) (steps : List Step) :
    let s := ofSteps c steps
    (∀ (σ : Type) (put : String → EStateM Unit σ Unit), s.render put = forM s.pieces.flatten put) ∧
    (∃ blanks, s.SetWith blanks ∧
      ∀ j cell, s.IsWidest j cell → blanks j cell = 3 + (s.mostBytes j - cell.length)) ∧
    (∀ j < 5, s.Tight j ↔
      ∃ longest ∈ s.column j, IsAscii longest ∧ longest.utf8ByteSize = s.mostBytes j) ∧
    ∀ j, (j ≠ 0 ∨ ∀ row ∈ s.rows, IsAscii row.label) → s.Tight j := by
  intro s
  refine ⟨fun σ put => s.render_eq_forM put, ⟨_, s.setWith_mostBytes, fun j cell hwidest => ?_⟩,
    fun j hj => ?_, fun j hj => ?_⟩
  · have hle := length_le_mostBytes hwidest.1
    show s.mostBytes j + 3 - cell.length = 3 + (s.mostBytes j - cell.length)
    omega
  · have hhead : header[j]? = some header[j] := List.getElem?_eq_getElem hj
    exact tight_iff (mem_column.mpr ⟨header, List.mem_cons_self, hhead⟩)
  · refine tight_of_isAscii fun cell hcell => ?_
    rcases isPrintable_or_label hcell with hprint | ⟨rfl, row, hrow, rfl⟩
    · exact hprint.isAscii
    · rcases hj with hj | hascii
      · exact absurd rfl hj
      · exact hascii row hrow

/-- A label of eight characters in nine bytes has four blanks in front of it. The columns of its
    cells are tight, and so is a column of labels in ASCII. -/
theorem tight_columns_wide_label :
    let s := ofSteps { bits := 8 } [.add "π = 22/7" ⟨[3]⟩]
    (s.IsWidest 0 "π = 22/7" ∧ ∃ blanks, s.SetWith blanks ∧ blanks 0 "π = 22/7" = 4) ∧
    (s.Tight 0 ↔
      ∃ longest ∈ ["FORMULA", "π = 22/7"], IsAscii longest ∧ longest.utf8ByteSize = 9) ∧
    s.Tight 4 ∧ (ofSteps { bits := 8 } [.add "3.14" ⟨[3]⟩]).Tight 0 := by
  intro s
  have hwidest : s.IsWidest 0 "π = 22/7" := ⟨by decide, by decide⟩
  have hmost : s.mostBytes 0 = 9 := by decide
  obtain ⟨_, ⟨blanks, hset, hblanks⟩, hiff, htight⟩ :=
    tight_columns { bits := 8 } [.add "π = 22/7" ⟨[3]⟩]
  have hzero := hiff 0 (by decide)
  rw [show (ofSteps _ _).mostBytes 0 = 9 from hmost] at hzero
  obtain ⟨_, _, _, hplain⟩ := tight_columns { bits := 8 } [.add "3.14" ⟨[3]⟩]
  exact ⟨⟨hwidest, blanks, hset, hblanks 0 _ hwidest⟩, hzero, htight 4 (.inl (by decide)),
    hplain 0 (.inr (by decide))⟩

/-- The column of that label is wider than its widest cell and three blanks. -/
theorem not_tight_wide_label : ¬ (ofSteps { bits := 8 } [.add "π = 22/7" ⟨[3]⟩]).Tight 0 := by
  rintro ⟨blanks, hset, htight⟩
  have hwidest : (ofSteps { bits := 8 } [.add "π = 22/7" ⟨[3]⟩]).IsWidest 0 "π = 22/7" :=
    ⟨by decide, by decide⟩
  have hfour := hset.unique (setWith_mostBytes _) hwidest.1
  rw [htight _ hwidest] at hfour
  exact absurd hfour (by decide)

end Sheet

end Tribase
