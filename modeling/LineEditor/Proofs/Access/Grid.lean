import LineEditor.Proofs.Access.Basic
import LineEditor.Screen.Grid

/-!
# Laying out candidates with checked accesses

To list candidates, one row after the other is tried until the columns fit. Each column is a slice
of the widths, the widths of the cells of a row are looked up by their columns, and the items are
divided into columns, so that there has to be a row. A single column always fits, so that no more
rows are tried than there are items. Only the last columns of a row may have no cell in it.

## Main definitions

* `Screen.columnWidths?`, `Screen.layout?`, `Screen.compactRow?` and `Screen.compactGrid?`.

## Main results

* `Screen.layout?_eq` — the search for a layout ends, with the layout that has the fewest rows.
* `Screen.compactGrid?_eq` — the grid is laid out with all accesses in range.
-/

namespace LineEditor.Screen

open Access

/-- The widths of the columns when each holds `rows` items. -/
def columnWidths? (widths : List Nat) (rows : Nat) : Option (List Nat) := do
  let columns ← ceilDiv? widths.length rows
  (List.range columns).mapM fun col => do
    let column ← slice? widths (col * rows) (min (col * rows + rows) widths.length)
    pure (column.foldl max 0)

/-- The number of rows and the widths of the columns, found by trying one row more each time.
There is no layout when no try is left. -/
def layout? (widths : List Nat) (width : Nat) : Nat → Nat → Option (Nat × List Nat)
  | 0, _ => none
  | tries + 1, rows => do
    let columns ← columnWidths? widths rows
    if columns.length == 1 || columns.foldr (· + gutter + ·) 0 ≤ width then pure (rows, columns)
    else layout? widths width tries (rows + 1)

/-- The items of one row, each with its column. -/
def rowCells (items : List Text) (rows columns row : Nat) : List (Nat × Text) :=
  (List.range columns).filterMap fun col => (items[row + col * rows]?).map (col, ·)

/-- The cells of a row, padded to the widths of their columns except for the last. -/
def compactRow? (columns : List Nat) : List (Nat × Text) → Option Text
  | [] => some []
  | [cell] => some cell.2
  | cell :: next :: rest => do
    let w ← columns[cell.1]?
    let others ← compactRow? columns (next :: rest)
    pure (padTo (w + gutter) cell.2 ++ others)

/-- The grid with the fewest rows that fit. -/
def compactGrid? (items : List Text) (width : Nat) : Option Text :=
  if items.isEmpty then pure []
  else do
    let layout ← layout? (items.map visibleWidth) width items.length 1
    let lines ← (List.range layout.1).mapM fun row =>
      compactRow? layout.2 (rowCells items layout.1 layout.2.length row)
    pure (lines.flatMap (· ++ [lineSeparator]))

variable {widths : List Nat} {width rows : Nat}

/-- Every column begins in the list. -/
theorem mul_lt_of_lt_ceilDiv {n col : Nat} (hrows : 0 < rows) (h : col < ceilDiv n rows) :
    col * rows < n := by
  have hmul : (col + 1) * rows ≤ n + rows - 1 :=
    (Nat.le_div_iff_mul_le hrows).mp h
  rw [Nat.succ_mul] at hmul
  omega

theorem columnWidths?_eq (hrows : 0 < rows) :
    columnWidths? widths rows = some (columnWidths widths rows) := by
  rw [columnWidths?, ceilDiv?_eq hrows]
  show (List.range (ceilDiv widths.length rows)).mapM _ = _
  apply mapM_eq_some
  intro col hcol
  have hstart := mul_lt_of_lt_ceilDiv hrows (List.mem_range.mp hcol)
  have hrange : col * rows ≤ min (col * rows + rows) widths.length := by omega
  rw [slice?_eq ⟨hrange, Nat.min_le_right _ _⟩, ← List.take_eq_take_min, List.drop_take,
    Nat.add_sub_cancel_left]
  rfl

/-- One column is always enough. -/
theorem fits_length (h : 0 < widths.length) (width : Nat) :
    fits widths width widths.length = true := by
  have hone : ceilDiv widths.length widths.length = 1 := by
    rw [ceilDiv, Nat.add_sub_assoc h, Nat.add_div_left _ h, Nat.div_eq_of_lt (by omega)]
  simp [fits, columnWidths, hone]

/-- One row more is tried each time, and with one row for each item at last. -/
theorem layout?_eq_find? (width : Nat) {tries : Nat} (hrows : 0 < rows)
    (h : rows + tries = widths.length) :
    ∃ found, layout? widths width (tries + 1) rows = some (found, columnWidths widths found) ∧
      (List.range' rows (tries + 1)).find? (fits widths width) = some found := by
  -- in the last try there are as many rows as items
  induction tries generalizing rows with
  | zero =>
    have hfits : fits widths width widths.length = true := fits_length (by omega) width
    rw [← h, Nat.add_zero] at hfits
    refine ⟨rows, ?_, ?_⟩
    · rw [layout?, columnWidths?_eq hrows]
      exact if_pos hfits
    · rw [List.range'_one, List.find?_cons_of_pos hfits]
  | succ tries ih =>
    rw [layout?, columnWidths?_eq hrows, List.range'_succ]
    by_cases hfits : fits widths width rows = true
    · exact ⟨rows, if_pos hfits, List.find?_cons_of_pos hfits⟩
    · obtain ⟨found, hlayout, hfind⟩ := ih (Nat.succ_pos rows) (by omega)
      refine ⟨found, ?_, ?_⟩
      · exact (if_neg hfits).trans hlayout
      · rw [List.find?_cons_of_neg hfits]
        exact hfind

/-- The search for a layout ends with the fewest rows that fit. -/
theorem layout?_eq (h : widths ≠ []) (width : Nat) :
    layout? widths width widths.length 1 =
      some (compactRows widths width, columnWidths widths (compactRows widths width)) := by
  have hpos : 0 < widths.length := List.length_pos_iff.mpr h
  obtain ⟨n, hn⟩ := Nat.exists_eq_succ_of_ne_zero (Nat.ne_of_gt hpos)
  obtain ⟨found, hlayout, hfind⟩ :=
    layout?_eq_find? width Nat.one_pos (by omega : 1 + n = widths.length)
  have hrows : compactRows widths width = found := by
    rw [compactRows, hn, hfind]
    rfl
  rw [hn, hlayout, hrows]

/-! ### The rows -/

/-- The cells of a row lie in neighbouring columns, the first of them in the column `first`. -/
def InOrder (first : Nat) (cells : List (Nat × Text)) : Prop :=
  cells.map (·.1) = List.range' first cells.length

theorem inOrder_cons {first : Nat} {cell : Nat × Text} {cells : List (Nat × Text)} :
    InOrder first (cell :: cells) ↔ cell.1 = first ∧ InOrder (first + 1) cells := by
  rw [InOrder, List.map_cons, List.length_cons, List.range'_succ, List.cons.injEq, InOrder]

theorem compactRow?_eq {columns : List Nat} {first : Nat} {cells : List (Nat × Text)}
    (horder : InOrder first cells) (hroom : first + cells.length ≤ columns.length) :
    compactRow? columns cells =
      some (compactRow (columns.drop first) (cells.map (·.2))) := by
  induction cells generalizing first with
  | nil => rw [compactRow?, List.map_nil, compactRow]
  | cons cell cells ih =>
    obtain ⟨hfirst, hrest⟩ := inOrder_cons.mp horder
    rw [List.length_cons] at hroom
    have ih := ih hrest (by omega)
    cases cells with
    | nil => rw [compactRow?, List.map_cons, List.map_nil, compactRow]
    | cons next cells =>
      have hlt : first < columns.length := by omega
      rw [compactRow?, hfirst, List.getElem?_eq_getElem hlt, ih, List.drop_eq_getElem_cons hlt]
      rfl

/-- An item is missing from a row only where all later ones are missing as well. -/
theorem inOrder_filterMap (items : List Text) (rows row first n : Nat) :
    InOrder first ((List.range' first n).filterMap fun col =>
      (items[row + col * rows]?).map (col, ·)) := by
  induction n generalizing first with
  | zero => rfl
  | succ n ih =>
    rw [List.range'_succ, List.filterMap_cons]
    cases hitem : items[row + first * rows]? with
    | some item => exact inOrder_cons.mpr ⟨rfl, ih (first + 1)⟩
    | none =>
      -- the items that later columns would show come even further behind the end
      have hnil : ((List.range' (first + 1) n).filterMap fun col =>
          (items[row + col * rows]?).map (col, ·)) = [] := by
        rw [List.filterMap_eq_nil_iff]
        intro col hcol
        have hle : items.length ≤ row + first * rows := List.getElem?_eq_none_iff.mp hitem
        have hfirst : first ≤ col := Nat.le_of_succ_le (List.mem_range'_1.mp hcol).1
        have hmul : first * rows ≤ col * rows := Nat.mul_le_mul_right rows hfirst
        rw [List.getElem?_eq_none (by omega)]
        rfl
      show InOrder first (List.filterMap _ _)
      rw [hnil]
      rfl

theorem map_snd_rowCells (items : List Text) (rows columns row : Nat) :
    (rowCells items rows columns row).map (·.2) = rowItems items rows columns row := by
  rw [rowCells, rowItems, List.map_filterMap]
  congr 1
  funext col
  cases items[row + col * rows]? with
  | none => rfl
  | some item => rfl

theorem length_rowCells_le (items : List Text) (rows columns row : Nat) :
    (rowCells items rows columns row).length ≤ columns := by
  have hle := List.length_filterMap_le
    (fun col => (items[row + col * rows]?).map (col, ·)) (List.range columns)
  rw [List.length_range] at hle
  exact hle

theorem compactGrid?_eq (items : List Text) (width : Nat) :
    compactGrid? items width = some (compactGrid items width) := by
  rw [compactGrid?]
  by_cases hempty : items.isEmpty = true
  · rw [if_pos hempty]
    simp [compactGrid, hempty]
  · have hne : items.map visibleWidth ≠ [] := by
      rw [ne_eq, List.map_eq_nil_iff, ← List.isEmpty_iff]
      exact hempty
    have hlayout := layout?_eq hne width
    rw [List.length_map] at hlayout
    rw [if_neg hempty, hlayout, compactGrid, if_neg hempty]
    generalize compactRows (items.map visibleWidth) width = rows
    generalize columnWidths (items.map visibleWidth) rows = columns
    -- each row can be put together, and then all of them
    have hrow : ∀ row ∈ List.range rows,
        compactRow? columns (rowCells items rows columns.length row) =
          some (compactRow columns (rowItems items rows columns.length row)) := by
      intro row _
      have horder : InOrder 0 (rowCells items rows columns.length row) := by
        rw [rowCells, List.range_eq_range']
        exact inOrder_filterMap items rows row 0 columns.length
      have hlength := length_rowCells_le items rows columns.length row
      rw [compactRow?_eq horder (by omega), map_snd_rowCells, List.drop_zero]
    have hrows := mapM_eq_some hrow
    show (List.mapM (fun row => compactRow? columns (rowCells items rows columns.length row))
      (List.range rows) >>= fun lines => pure (lines.flatMap (· ++ [lineSeparator]))) = _
    rw [hrows]
    show some (((List.range rows).map _).flatMap _) = _
    rw [List.flatMap_map]

end LineEditor.Screen
