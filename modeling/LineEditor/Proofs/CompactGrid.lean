import LineEditor.Proofs.Access.Grid
import Mathlib.Algebra.Order.Floor.Div
import Mathlib.Data.Multiset.Bind
import Mathlib.Order.Bounds.Basic

/-!
# The grid of candidates

Candidates are shown in columns that are filled from the top and are as wide as they have to be, in
the fewest rows that fit on the terminal. More rows do not always mean less width, since the columns
are cut in other places then, so that the fewest rows are found by trying. The last column may be
short, and then the last rows have no cell in it. Still all cells of a column begin at the same
place, nothing stands behind the last cell of a row, and every candidate is shown once.

Items are printable ASCII here, so that each character takes one cell.

## Main definitions

* `Screen.column` are the items of a column, `Screen.columnStart` is where it begins.
* `Screen.Enough` — a number of rows is enough for the width of a terminal.
* `Screen.Aligned` — a row shows its cells where their columns begin.
* `Screen.IsGrid` — what holds of all rows of a grid.

## Main results

* `Screen.isLeast_compactRows` — the grid has the fewest rows that are enough.
* `Screen.getElem?_rowItems` — which items a row shows.
* `Screen.perm_rowItems` — each item is shown once.
* `Screen.aligned_compactRow` — where a row shows its items.
* `Screen.visibleWidth_gridLine_le` — how wide a row is at most.
* `Screen.compactGrid_layout` — the search for a layout ends, and the text is a grid.
-/

namespace LineEditor.Screen

/-- The items of the column `col`, when each column but the last holds `rows` items. -/
def column (items : List Text) (rows col : ℕ) : List Text :=
  (items.drop (col * rows)).take rows

/-- The length of the longest item. -/
def longest (items : List Text) : ℕ :=
  (items.map List.length).max?.getD 0

/-- Where a column begins: behind the columns before it, each of which has two blank cells behind
its longest item. -/
def columnStart (items : List Text) (rows col : ℕ) : ℕ :=
  ((List.range col).map fun col => longest (column items rows col) + 2).sum

/-- So many rows are enough: the items stand in one column, or the terminal is wide enough for what
lies before the end of the last column. -/
def Enough (items : List Text) (width rows : ℕ) : Prop :=
  items.length ⌈/⌉ rows = 1 ∨ columnStart items rows (items.length ⌈/⌉ rows) ≤ width

/-- The row shows the cells, the first of which is that of the column `col`. Each cell begins where
its column starts. Up to the start of the next column only spaces follow, and nothing follows the
last cell. -/
inductive Aligned (start : ℕ → ℕ) : ℕ → List Text → Text → Prop
  | last (col : ℕ) (cell : Text) : Aligned start col [cell] cell
  | next {col gap : ℕ} {cell row : Text} {cells : List Text}
    (hgap : start col + cell.length + gap = start (col + 1))
    (hrest : Aligned start (col + 1) cells row) :
    Aligned start col (cell :: cells) (cell ++ List.replicate gap ' ' ++ row)

/-- The lines show the cells of the rows of a grid, and the rows are as many as needed. -/
structure IsGrid (items : List Text) (width rows : ℕ) (cells : ℕ → List Text)
    (lines : ℕ → Text) : Prop where
  /-- The rows are the fewest that are enough. -/
  least : IsLeast {n | 1 ≤ n ∧ Enough items width n} rows
  /-- A row consists of the items whose distance from its first item is a multiple of `rows`. -/
  cells_eq : ∀ row < rows, ∀ i, (cells row)[i]? = items[row + i * rows]?
  /-- All cells of a column begin at the same place. -/
  aligned : ∀ row < rows, Aligned (columnStart items rows) 0 (cells row) (lines row)
  /-- Rows with several columns are not wider than the terminal. -/
  narrow : 1 < items.length ⌈/⌉ rows → ∀ row < rows, visibleWidth (lines row) ≤ width
  /-- There is no line break in a row. -/
  unbroken : ∀ row < rows, lineSeparator ∉ lines row
  /-- Every item is shown once. -/
  once : ((List.range rows).flatMap cells).Perm items

variable {items : List Text} {rows row : ℕ}

theorem ceilDiv_eq (n d : ℕ) : ceilDiv n d = n ⌈/⌉ d :=
  (Nat.ceilDiv_eq_add_pred_div n d).symm

theorem length_le_longest {item : Text} (h : item ∈ items) : item.length ≤ longest items :=
  List.le_max?_getD_of_mem (List.mem_map_of_mem h)

/-! ### The fewest rows -/

section Printable

variable (hprint : ∀ item ∈ items, ∀ c ∈ item, ' ' ≤ c ∧ c ≤ '~')

include hprint

theorem map_visibleWidth : items.map visibleWidth = items.map List.length :=
  List.map_congr_left fun item hitem => visibleWidth_of_printable (hprint item hitem)

theorem columnWidths_eq (rows : ℕ) :
    columnWidths (items.map visibleWidth) rows =
      (List.range (items.length ⌈/⌉ rows)).map fun col => longest (column items rows col) := by
  rw [map_visibleWidth hprint, columnWidths, List.length_map, ceilDiv_eq]
  refine List.map_congr_left fun col _ => ?_
  rw [longest, column, List.map_take, List.map_drop, List.foldl_max, Nat.zero_max]

theorem fits_iff (width rows : ℕ) :
    fits (items.map visibleWidth) width rows = true ↔ Enough items width rows := by
  have htotal : ∀ widths : List ℕ,
      widths.foldr (· + gutter + ·) 0 = (widths.map (· + 2)).sum := by
    intro widths
    induction widths with
    | nil => rfl
    | cons w widths ih => rw [List.foldr_cons, List.map_cons, List.sum_cons, ih]; rfl
  rw [fits, columnWidths_eq hprint, htotal, Enough, columnStart, List.map_map, List.length_map,
    List.length_range]
  simp [Function.comp_def]

/-- The rows of the grid are the fewest that are enough. -/
theorem isLeast_compactRows (hne : items ≠ []) (width : ℕ) :
    IsLeast {rows | 1 ≤ rows ∧ Enough items width rows}
      (compactRows (items.map visibleWidth) width) := by
  have hpos : 0 < (items.map visibleWidth).length := by
    rw [List.length_map]
    exact List.length_pos_iff.mpr hne
  -- with a row for each item there is one column
  have hlast : (items.map visibleWidth).length ∈ List.range' 1 (items.map visibleWidth).length := by
    rw [List.mem_range'_1]
    omega
  obtain ⟨found, hfound⟩ := Option.isSome_iff_exists.mp
    (List.find?_isSome.mpr ⟨_, hlast, fits_length hpos width⟩)
  obtain ⟨hfits, hmem, hbefore⟩ := List.find?_range'_eq_some.mp hfound
  rw [compactRows, hfound, Option.getD_some]
  refine ⟨⟨(List.mem_range'_1.mp hmem).1, (fits_iff hprint width found).mp hfits⟩, ?_⟩
  rintro rows ⟨hrows, henough⟩
  refine Nat.le_of_not_lt fun hless => ?_
  have hnot := hbefore rows hrows hless
  rw [(fits_iff hprint width rows).mpr henough] at hnot
  contradiction

end Printable

/-! ### The items of a row -/

/-- Where only beginnings of a range give something, the values are found at their places. -/
theorem getElem?_filterMap_range {α : Type} {f : ℕ → Option α}
    (hclosed : ∀ i j, i ≤ j → f i = none → f j = none) (n j : ℕ) :
    ((List.range n).filterMap f)[j]? = if j < n then f j else none := by
  induction n generalizing j with
  | zero => simp
  | succ n ih =>
    rw [List.range_succ, List.filterMap_append]
    cases hlast : f n with
    | none =>
      simp only [List.filterMap_cons, hlast, List.filterMap_nil, List.append_nil, ih]
      rcases Nat.lt_trichotomy j n with hlt | rfl | hgt
      · simp [hlt, Nat.lt_succ_of_lt hlt]
      · simp [hlast]
      · simp [Nat.not_lt_of_gt hgt, Nat.not_lt.mpr (Nat.succ_le_of_lt hgt)]
    | some a =>
      -- all values before the last one are there
      have hlength : ((List.range n).filterMap f).length = n := by
        have hle := List.length_filterMap_le f (List.range n)
        rw [List.length_range] at hle
        refine Nat.le_antisymm hle (Nat.le_of_not_lt fun hlt => ?_)
        have hmissing := ih ((List.range n).filterMap f).length
        rw [if_pos hlt, List.getElem?_eq_none (Nat.le_refl _)] at hmissing
        rw [hclosed _ n hle hmissing.symm] at hlast
        contradiction
      rw [List.getElem?_append, hlength, ih]
      rcases Nat.lt_trichotomy j n with hlt | rfl | hgt
      · simp [hlt, Nat.lt_succ_of_lt hlt]
      · simp [hlast]
      · have hplace : j - n ≠ 0 := by omega
        simp [Nat.not_lt_of_gt hgt, Nat.not_lt.mpr (Nat.succ_le_of_lt hgt), hlast, hplace]

theorem getElem?_eq_none_of_le {i j : ℕ} (hle : i ≤ j) (h : items[i]? = none) :
    items[j]? = none := by
  rw [List.getElem?_eq_none_iff] at h ⊢
  omega

/-- The cells of a row are `rows` items apart, and the first is the item with its number. -/
theorem getElem?_rowItems (hrows : 0 < rows) (row j : ℕ) :
    (rowItems items rows (items.length ⌈/⌉ rows) row)[j]? = items[row + j * rows]? := by
  have hclosed : ∀ i j, i ≤ j → items[row + i * rows]? = none → items[row + j * rows]? = none :=
    fun i j hle => getElem?_eq_none_of_le (Nat.add_le_add_left (Nat.mul_le_mul_right rows hle) row)
  rw [rowItems, getElem?_filterMap_range hclosed]
  split
  · rfl
  · next hbehind =>
    -- behind the last column there is nothing
    have hall : items.length ≤ rows * (items.length ⌈/⌉ rows) := le_smul_ceilDiv hrows
    have hmul := Nat.mul_le_mul_left rows (Nat.le_of_not_lt hbehind)
    rw [Nat.mul_comm rows j] at hmul
    rw [List.getElem?_eq_none (by omega)]

theorem getElem?_column (hrow : row < rows) (col : ℕ) :
    (column items rows col)[row]? = items[row + col * rows]? := by
  rw [column, List.getElem?_take_of_lt hrow, List.getElem?_drop, Nat.add_comm]

theorem filterMap_range_eq_column (items : List Text) (rows col : ℕ) :
    ((List.range rows).filterMap fun row => items[row + col * rows]?) = column items rows col := by
  have hclosed : ∀ i j, i ≤ j → items[i + col * rows]? = none → items[j + col * rows]? = none :=
    fun i j hle => getElem?_eq_none_of_le (Nat.add_le_add_right hle _)
  refine List.ext_getElem? fun row => ?_
  rw [getElem?_filterMap_range hclosed]
  split
  · next hrow => exact (getElem?_column hrow col).symm
  · next hrow => rw [column, List.getElem?_take_eq_none (Nat.le_of_not_lt hrow)]

theorem flatMap_column (items : List Text) (rows columns : ℕ) :
    (List.range columns).flatMap (column items rows) = items.take (columns * rows) := by
  induction columns with
  | zero => simp
  | succ columns ih =>
    rw [List.range_succ, List.flatMap_append, ih, List.flatMap_singleton, column, Nat.succ_mul,
      List.take_add]

/-- All rows together show every item once. -/
theorem perm_rowItems (hrows : 0 < rows) :
    ((List.range rows).flatMap (rowItems items rows (items.length ⌈/⌉ rows))).Perm items := by
  have hall : items.length ≤ rows * (items.length ⌈/⌉ rows) := le_smul_ceilDiv hrows
  -- read column by column, the cells are the items in their order
  have hcolumns : (List.range (items.length ⌈/⌉ rows)).flatMap (column items rows) = items := by
    rw [flatMap_column, List.take_of_length_le (Nat.mul_comm _ rows ▸ hall)]
  have hswap : ((List.range rows).flatMap (rowItems items rows (items.length ⌈/⌉ rows))).Perm
      ((List.range (items.length ⌈/⌉ rows)).flatMap (column items rows)) := by
    -- rows and columns change places, which leaves only the number of times that a cell is shown
    rw [← Multiset.coe_eq_coe, ← Multiset.coe_bind, ← Multiset.coe_bind]
    simp only [← filterMap_range_eq_column, rowItems, List.filterMap_eq_flatMap_toList,
      ← Multiset.coe_bind]
    exact Multiset.bind_bind _ _
  rwa [hcolumns] at hswap

/-! ### Where the cells stand -/

theorem columnStart_succ (items : List Text) (rows col : ℕ) :
    columnStart items rows (col + 1) =
      columnStart items rows col + (longest (column items rows col) + 2) := by
  rw [columnStart, List.range_succ, List.map_append, List.sum_append, List.map_singleton,
    List.sum_singleton, ← columnStart]

theorem columnStart_le {col columns : ℕ} (h : col ≤ columns) :
    columnStart items rows col ≤ columnStart items rows columns :=
  monotone_nat_of_le_succ (fun n => by simp [columnStart_succ]) h

/-- A row shows its cells at the starts of their columns, when the columns are as wide as the cells
in them. -/
theorem aligned_compactRow {start width : ℕ → ℕ} {col columns : ℕ} {cells : List Text}
    (hstart : ∀ col, start (col + 1) = start col + (width col + 2))
    (hwide : ∀ i cell, cells[i]? = some cell → visibleWidth cell = cell.length ∧
      cell.length ≤ width (col + i))
    (hroom : cells.length ≤ columns) (hne : cells ≠ []) :
    Aligned start col cells (compactRow ((List.range' col columns).map width) cells) := by
  induction cells generalizing col columns with
  | nil => contradiction
  | cons cell cells ih =>
    rw [List.length_cons] at hroom
    obtain ⟨columns, rfl⟩ : ∃ n, columns = n + 1 := ⟨columns - 1, by omega⟩
    cases cells with
    | nil =>
      rw [compactRow]
      exact .last col cell
    | cons next cells =>
      -- this cell is padded up to the next column, the induction has the others
      obtain ⟨hvisible, hfits⟩ := hwide 0 cell rfl
      have hrest : Aligned start (col + 1) (next :: cells)
          (compactRow ((List.range' (col + 1) columns).map width) (next :: cells)) := by
        refine ih ?_ (Nat.le_of_succ_le_succ hroom) (List.cons_ne_nil next cells)
        intro i other hother
        rw [Nat.add_right_comm]
        exact hwide (i + 1) other hother
      rw [List.range'_succ, List.map_cons]
      show Aligned start col _ (padTo (width col + gutter) cell ++ _)
      rw [padTo, hvisible]
      refine .next ?_ hrest
      have hnext := hstart col
      rw [Nat.add_zero] at hfits
      rw [gutter]
      omega

/-- A row ends before the column behind its last cell begins. -/
theorem Aligned.length_le {start : ℕ → ℕ} {col : ℕ} {cells : List Text} {line : Text}
    (h : Aligned start col cells line)
    (hwide : ∀ i cell, cells[i]? = some cell →
      start (col + i) + cell.length ≤ start (col + i + 1)) :
    start col + line.length ≤ start (col + cells.length) := by
  induction h with
  | last col cell => exact hwide 0 cell rfl
  | @next col gap cell line cells hgap hrest ih =>
    -- only the last cell matters, since up to it the starts are known exactly
    have hline := ih fun i other hother => by
      have hother := hwide (i + 1) other hother
      rwa [← Nat.add_assoc, Nat.add_right_comm col i 1] at hother
    simp only [List.length_append, List.length_replicate, List.length_cons]
    rw [Nat.add_right_comm col 1, Nat.add_assoc] at hline
    omega

/-- A row of printable cells is printable. -/
theorem Aligned.printable {start : ℕ → ℕ} {col : ℕ} {cells : List Text} {line : Text}
    (h : Aligned start col cells line) (hprint : ∀ cell ∈ cells, ∀ c ∈ cell, ' ' ≤ c ∧ c ≤ '~') :
    ∀ c ∈ line, ' ' ≤ c ∧ c ≤ '~' := by
  induction h with
  | last col cell => exact hprint cell List.mem_cons_self
  | @next col gap cell line cells hgap hrest ih =>
    obtain ⟨hcell, hcells⟩ := List.forall_mem_cons.mp hprint
    rw [List.append_assoc, List.forall_mem_append, List.forall_mem_append]
    refine ⟨hcell, ?_, ih hcells⟩
    intro c hc
    rw [List.eq_of_mem_replicate hc]
    decide

/-! ### The grid -/

/-- There are no more rows than items. -/
theorem le_length_of_isLeast {width : ℕ} (hne : items ≠ [])
    (h : IsLeast {n | 1 ≤ n ∧ Enough items width n} rows) : rows ≤ items.length := by
  have hpos : 0 < items.length := List.length_pos_iff.mpr hne
  have hsmul : items.length • 1 = items.length := Nat.mul_one _
  have hone : items.length ⌈/⌉ items.length = 1 := by
    have hone := smul_ceilDiv hpos 1
    rwa [hsmul] at hone
  exact h.2 ⟨hpos, Or.inl hone⟩

theorem length_rowItems_le (items : List Text) (rows columns row : ℕ) :
    (rowItems items rows columns row).length ≤ columns := by
  rw [← map_snd_rowCells, List.length_map]
  exact length_rowCells_le items rows columns row

theorem mem_of_mem_rowItems {columns : ℕ} {cell : Text}
    (h : cell ∈ rowItems items rows columns row) : cell ∈ items := by
  obtain ⟨col, -, hcol⟩ := List.mem_filterMap.mp h
  exact List.mem_of_getElem? hcol

/-- The row of a grid with so many rows, as it is shown. -/
def gridLine (items : List Text) (rows row : ℕ) : Text :=
  compactRow (columnWidths (items.map visibleWidth) rows)
    (rowItems items rows (items.length ⌈/⌉ rows) row)

/-- A cell is not longer than the longest item of its column. -/
theorem length_le_of_getElem?_rowItems {i : ℕ} {cell : Text} (hrow : row < rows)
    (h : (rowItems items rows (items.length ⌈/⌉ rows) row)[i]? = some cell) :
    cell.length ≤ longest (column items rows i) := by
  rw [getElem?_rowItems (Nat.zero_lt_of_lt hrow), ← getElem?_column hrow] at h
  exact length_le_longest (List.mem_of_getElem? h)

section Printable

variable (hprint : ∀ item ∈ items, ∀ c ∈ item, ' ' ≤ c ∧ c ≤ '~')

include hprint

theorem aligned_gridLine (hrow : row < rows) (hitem : row < items.length) :
    Aligned (columnStart items rows) 0 (rowItems items rows (items.length ⌈/⌉ rows) row)
      (gridLine items rows row) := by
  have hne : rowItems items rows (items.length ⌈/⌉ rows) row ≠ [] := by
    intro hnil
    have hfirst : (rowItems items rows (items.length ⌈/⌉ rows) row)[0]? = items[row + 0 * rows]? :=
      getElem?_rowItems (Nat.zero_lt_of_lt hrow) row 0
    rw [hnil, Nat.zero_mul, Nat.add_zero, List.getElem?_eq_getElem hitem] at hfirst
    contradiction
  rw [gridLine, columnWidths_eq hprint, List.range_eq_range']
  refine aligned_compactRow (columnStart_succ items rows) ?_ (length_rowItems_le ..) hne
  intro i cell hcell
  have hmem := mem_of_mem_rowItems (List.mem_of_getElem? hcell)
  rw [Nat.zero_add]
  exact ⟨visibleWidth_of_printable (hprint cell hmem), length_le_of_getElem?_rowItems hrow hcell⟩

theorem printable_gridLine (hrow : row < rows) (hitem : row < items.length) :
    ∀ c ∈ gridLine items rows row, ' ' ≤ c ∧ c ≤ '~' :=
  (aligned_gridLine hprint hrow hitem).printable fun cell hcell =>
    hprint cell (mem_of_mem_rowItems hcell)

/-- No row reaches behind the last column. -/
theorem visibleWidth_gridLine_le (hrow : row < rows) (hitem : row < items.length) :
    visibleWidth (gridLine items rows row) ≤ columnStart items rows (items.length ⌈/⌉ rows) := by
  have hend := (aligned_gridLine hprint hrow hitem).length_le fun i cell hcell => by
    have hcell := length_le_of_getElem?_rowItems hrow hcell
    rw [columnStart_succ, Nat.zero_add]
    omega
  rw [visibleWidth_of_printable (printable_gridLine hprint hrow hitem)]
  calc (gridLine items rows row).length
      ≤ columnStart items rows 0 + (gridLine items rows row).length := Nat.le_add_left ..
    _ ≤ columnStart items rows (0 + (rowItems items rows (items.length ⌈/⌉ rows) row).length) :=
      hend
    _ ≤ columnStart items rows (items.length ⌈/⌉ rows) := by
      rw [Nat.zero_add]
      exact columnStart_le (length_rowItems_le ..)

theorem isGrid_gridLine (hne : items ≠ []) {width : ℕ}
    (hleast : IsLeast {n | 1 ≤ n ∧ Enough items width n} rows) :
    IsGrid items width rows (rowItems items rows (items.length ⌈/⌉ rows))
      (gridLine items rows) := by
  obtain ⟨hrows, henough⟩ := hleast.1
  have hcount : ∀ row < rows, row < items.length := fun row hrow =>
    Nat.lt_of_lt_of_le hrow (le_length_of_isLeast hne hleast)
  constructor
  case least => exact hleast
  case cells_eq => exact fun row _ i => getElem?_rowItems hrows row i
  case aligned => exact fun row hrow => aligned_gridLine hprint hrow (hcount row hrow)
  case narrow =>
    intro hcolumns row hrow
    have hwidth := henough.resolve_left (Nat.ne_of_gt hcolumns)
    exact Nat.le_trans (visibleWidth_gridLine_le hprint hrow (hcount row hrow)) hwidth
  case unbroken =>
    intro row hrow hbreak
    have hprintable := printable_gridLine hprint hrow (hcount row hrow) lineSeparator hbreak
    exact absurd hprintable.1 (by decide)
  case once => exact perm_rowItems hrows

/-- Whatever the lengths of the items and the width of the terminal are, the search for a layout
ends, and the grid has the fewest rows that are enough, each of which shows its items where their
columns begin. -/
theorem compactGrid_layout (hne : items ≠ []) (width : ℕ) :
    ∃ rows cells lines, IsGrid items width rows cells lines ∧
      compactGrid? items width = some (compactGrid items width) ∧
      compactGrid items width = (List.range rows).flatMap (lines · ++ [lineSeparator]) := by
  refine ⟨_, _, _, isGrid_gridLine hprint hne (isLeast_compactRows hprint hne width),
    compactGrid?_eq items width, ?_⟩
  have hempty : ¬ items.isEmpty = true := by rwa [List.isEmpty_iff]
  simp only [compactGrid, if_neg hempty, gridLine, columnWidths_eq hprint, List.length_map,
    List.length_range]

end Printable

/-- Items of different lengths. -/
def ragged : List Text :=
  ["ab", "c", "d", "efg", "h"].map String.toList

/-- In one row the items would take eighteen cells. Two rows just fit into twelve, and the last of
them has no cell in the third column. -/
theorem compactGrid_layout_ragged :
    (ragged ≠ [] ∧ ∀ item ∈ ragged, ∀ c ∈ item, ' ' ≤ c ∧ c ≤ '~') ∧
      compactGrid ragged 12 = "ab  d    h\nc   efg\n".toList ∧
      ∃ rows cells lines, IsGrid ragged 12 rows cells lines ∧
        compactGrid? ragged 12 = some (compactGrid ragged 12) ∧
        compactGrid ragged 12 = (List.range rows).flatMap (lines · ++ [lineSeparator]) :=
  have hprint : ∀ item ∈ ragged, ∀ c ∈ item, ' ' ≤ c ∧ c ≤ '~' := by simp [ragged]
  have hne : ragged ≠ [] := List.cons_ne_nil _ _
  ⟨⟨hne, hprint⟩, by decide +kernel, compactGrid_layout hprint hne 12⟩

end LineEditor.Screen
