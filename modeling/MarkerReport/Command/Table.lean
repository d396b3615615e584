/-! # Tables for the terminal

A table has a header and rows below it. Its frame has round corners and a rule under the header;
each column is as wide as its widest cell, and cells stand to the left with a blank on each side.
-/

namespace MarkerReport.Table

/-- A text filled up with blanks to a width. -/
def pad (width : Nat) (text : String) : String :=
  text ++ String.ofList (List.replicate (width - text.length) ' ')

/-- The width of each column of some rows. -/
def widths : List (List String) → List Nat
  | [] => []
  | [row] => row.map String.length
  | row :: later => List.zipWith (fun cell width => max cell.length width) row (widths later)

/-- A row of cells. -/
def line (widths : List Nat) (row : List String) : String :=
  "│" ++ String.intercalate "│"
    (List.zipWith (fun width cell => " " ++ pad width cell ++ " ") widths row) ++ "│"

/-- A rule from one corner to the other. -/
def rule (left crossing right : String) (widths : List Nat) : String :=
  left ++ String.intercalate crossing
    (widths.map fun width => String.ofList (List.replicate (width + 2) '─')) ++ right

/-- The lines of a table. -/
def lines (header : List String) (rows : List (List String)) : List String :=
  let widths := widths (header :: rows)
  [rule "╭" "┬" "╮" widths, line widths header, rule "├" "┼" "┤" widths] ++
    rows.map (line widths) ++ [rule "╰" "┴" "╯" widths]

/-- The text of a table, without a line end behind it. -/
def render (header : List String) (rows : List (List String)) : String :=
  String.intercalate "\n" (lines header rows)

end MarkerReport.Table
