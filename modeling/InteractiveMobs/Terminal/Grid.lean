import InteractiveMobs.Terminal.Width

/-!
# Grids

A table drawn with lines: rounded corners, a rule under the heading, and each column as wide as
the widest line in it. A cell may have several lines; shorter cells of its row stay empty below.
-/

namespace InteractiveMobs.Terminal
set_option autoImplicit false

/-- The cells of a table by rows, each row as long as the heading. -/
structure Grid where
  heading : List String
  rows : List (List String)
deriving DecidableEq, Repr

namespace Grid

/-- The lines of a cell, at least one. -/
def cellLines (cell : String) : List String := cell.splitOn "\n"

/-- The columns of the widest line of a cell. -/
def cellWidth (cell : String) : Nat := ((cellLines cell).map width).foldl max 0

/-- The width of each column. -/
def widths (grid : Grid) : List Nat :=
  grid.rows.foldl (fun widths row => List.zipWith max widths (row.map cellWidth))
    (grid.heading.map cellWidth)

/-- A rule over all columns, with its corners and the crossings between columns. -/
def rule (left crossing right : String) (widths : List Nat) : String :=
  left ++ crossing.intercalate (widths.map fun w => String.ofList (List.replicate (w + 2) '─')) ++
    right

/-- A line of a cell, filled up to the width of its column. -/
def fill (columns : Nat) (line : String) : String :=
  " " ++ line ++ String.ofList (List.replicate (columns - width line) ' ') ++ " "

/-- The lines of a row. -/
def rowLines (widths : List Nat) (row : List String) : List String :=
  let cells := row.map cellLines
  let height := (cells.map List.length).foldl max 0
  (List.range height).map fun i =>
    let filled := List.zipWith (fun w lines => fill w (lines[i]?.getD "")) widths cells
    "│" ++ "│".intercalate filled ++ "│"

/-- The lines of the drawing. -/
def lines (grid : Grid) : List String :=
  let widths := grid.widths
  [rule "╭" "┬" "╮" widths] ++ rowLines widths grid.heading ++
    [rule "├" "┼" "┤" widths] ++ grid.rows.flatMap (rowLines widths) ++
    [rule "╰" "┴" "╯" widths]

end Grid
end InteractiveMobs.Terminal
