-- SUMMARY: Tables with a frame and a header.
import AgentGovernance.Text.Width

/-!
# Tables

A frame surrounds the table and a double rule stands below its header. Columns are as wide as their
widest line and at least one column wide, with a blank on both sides of each cell and one between
cells. A cell with line breaks takes several lines.
-/

namespace AgentGovernance.View

/-- A header and rows of cells. -/
structure Table where
  header : List String
  rows : List (List String)

namespace Table

/-- The lines of a cell: its pieces between line feeds. -/
def cellLines (cell : String) : List String := pieces [] cell.toList
where
  /-- The pieces of the characters still to be read; `line` holds, reversed, the one being read. -/
  pieces (line : List Char) : List Char → List String
    | [] => [String.ofList line.reverse]
    | c :: cs =>
      if c == '\n' then String.ofList line.reverse :: pieces [] cs else pieces (c :: line) cs

/-- The width of a cell. -/
def cellWidth (cell : String) : Nat := ((cellLines cell).map Text.width).foldl max 0

/-- The widths of the columns, one for each cell of the header. -/
def widths (t : Table) : List Nat :=
  (List.range t.header.length).map fun i =>
    ((t.header :: t.rows).map fun r => cellWidth (r.getD i "")).foldl max 1

/-- A line of a cell with blanks up to the width of its column and on both sides. -/
def padded (width : Nat) (line : String) : String :=
  " " ++ line ++ String.ofList (List.replicate (width - Text.width line) ' ') ++ " "

/-- One line of a row. -/
def frameLine (cells : List String) : String := "│" ++ " ".intercalate cells ++ "│"

/-- The lines of a row. -/
def rowLines (widths : List Nat) (cells : List String) : List String :=
  let parts := cells.map cellLines
  let height := (parts.map List.length).foldl max 1
  (List.range height).map fun k =>
    frameLine ((widths.zip parts).map fun (w, lines) => padded w (lines.getD k ""))

/-- A rule across the table. -/
def rule (left fill right : String) (widths : List Nat) : String :=
  let inner := (widths.map (· + 2)).foldl (· + ·) 0 + (widths.length - 1)
  left ++ String.join (List.replicate inner fill) ++ right

/-- The text of a table. -/
def render (t : Table) : String :=
  let ws := t.widths
  "\n".intercalate
    ([rule "┌" "─" "┐" ws] ++ rowLines ws t.header ++ [rule "╞" "═" "╡" ws] ++
      t.rows.flatMap (rowLines ws) ++ [rule "└" "─" "┘" ws])

end Table

end AgentGovernance.View
