import LineEditor.Screen.Width

/-!
# Grids of candidates

A list is shown in columns, filled downwards first and then across, and every row ends with a
line break. Widths are visible widths, so that styled items line up like plain ones.

## Main definitions

* `Screen.uniformGrid` gives every column the width of the widest item.
* `Screen.compactGrid` gives every column its own width and uses the fewest rows that fit.
-/

namespace LineEditor.Screen

/-- What ends a row of a grid and joins the physical lines of an entry. -/
def lineSeparator : Char := '\n'

/-- Blank cells between two columns. -/
def gutter : Nat := 2

/-- The item with spaces behind it up to a width. -/
def padTo (width : Nat) (item : Text) : Text :=
  item ++ List.replicate (width - visibleWidth item) ' '

/-- The quotient rounded up. -/
def ceilDiv (n d : Nat) : Nat :=
  (n + d - 1) / d

/-- The items of one row, when each column holds `rows` items. -/
def rowItems (items : List Text) (rows columns row : Nat) : List Text :=
  (List.range columns).filterMap fun col => items[row + col * rows]?

/-- Every cell, also the last of a row, is as wide as the widest item and a gutter. At least one
column is used. -/
def uniformGrid (items : List Text) (width : Nat) : Text :=
  if items.isEmpty then []
  else
    let columnWidth := (items.map visibleWidth).foldl max 0 + gutter
    let columns := max (width / columnWidth) 1
    let rows := ceilDiv items.length columns
    (List.range rows).flatMap fun row =>
      ((rowItems items rows columns row).flatMap (padTo columnWidth)) ++ [lineSeparator]

/-- The widths of the columns when each holds `rows` items with the given widths. -/
def columnWidths (widths : List Nat) (rows : Nat) : List Nat :=
  (List.range (ceilDiv widths.length rows)).map fun col =>
    ((widths.drop (col * rows)).take rows).foldl max 0

/-- Whether `rows` rows are enough: there is one column only, or the columns with their gutters
are not wider than the terminal. -/
def fits (widths : List Nat) (width rows : Nat) : Bool :=
  let columns := columnWidths widths rows
  columns.length == 1 || columns.foldr (· + gutter + ·) 0 ≤ width

/-- The least number of rows that is enough. One column always is. -/
def compactRows (widths : List Nat) (width : Nat) : Nat :=
  ((List.range' 1 widths.length).find? (fits widths width)).getD widths.length

/-- The cells of a row, padded to the widths of their columns except for the last. -/
def compactRow : List Nat → List Text → Text
  | _, [] => []
  | _, [item] => item
  | [], item :: rest => padTo gutter item ++ compactRow [] rest
  | w :: widths, item :: rest => padTo (w + gutter) item ++ compactRow widths rest

/-- The columns are as wide as their own widest items, and the last cell of a row is not padded.
The fewest rows that fit are used; one column is accepted even when it is too wide. -/
def compactGrid (items : List Text) (width : Nat) : Text :=
  let widths := items.map visibleWidth
  let rows := compactRows widths width
  let columns := columnWidths widths rows
  (List.range (if items.isEmpty then 0 else rows)).flatMap fun row =>
    compactRow columns (rowItems items rows columns.length row) ++ [lineSeparator]

end LineEditor.Screen
