import Preflight.Text
import Preflight.Text.Width

/-!
# Grids

A table of text drawn with `+`, `-` and `|`: a rule above, below and between all rows, each cell
padded by one blank and filled to the width of its column.  A cell may have several lines.
-/

namespace Preflight

namespace Grid

/-- The lines of a cell. -/
def cellLines (cell : String) : List (List Char) := splitParts '\n' cell.toList

/-- The columns that a cell needs. -/
def cellWidth (cell : String) : Nat := ((cellLines cell).map Text.width).foldl max 0

/-- The width of each column, at least that of every cell in it. -/
def columnWidths : List (List String) → List Nat
  | [] => []
  | [row] => row.map cellWidth
  | row :: rows => List.zipWith max (row.map cellWidth) (columnWidths rows)

/-- The rule between rows. -/
def rule (widths : List Nat) : String :=
  "+" ++ String.join (widths.map fun w => String.ofList (List.replicate (w + 2) '-') ++ "+")

/-- One line of a cell, padded and filled. -/
def cellText (w : Nat) (line : List Char) : String :=
  " " ++ String.ofList line ++ String.ofList (List.replicate (w - Text.width line) ' ') ++ " |"

/-- The lines of a row, as many as its tallest cell has. -/
def rowLines (widths : List Nat) (row : List String) : List String :=
  let cells := row.map cellLines
  let height := (cells.map List.length).foldl max 0
  (List.range height).map fun i =>
    "|" ++ String.join (List.zipWith (fun w lines => cellText w (lines.getD i [])) widths cells)

/-- Draw a grid, without a line end after the last rule. -/
def render (rows : List (List String)) : String :=
  let widths := columnWidths rows
  let line := rule widths
  "\n".intercalate (line :: rows.flatMap fun row => rowLines widths row ++ [line])

end Grid

end Preflight
