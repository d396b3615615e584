import MarkerReport.Scan.Item

/-! # Reports in Markdown

A report is a heading and a table with one row for each item. With context the table has a column
for the scope. A vertical bar in a scope or in a text is escaped and a line feed becomes a blank, so
that neither leaves its cell.
-/

namespace MarkerReport.Markdown

/-- The characters that stand for a character in a cell. -/
def escape (c : Char) : List Char :=
  if c = '|' then ['\\', '|'] else if c = '\n' then [' '] else [c]

/-- A text as the content of a cell. -/
def cell (text : String) : List Char := text.toList.flatMap escape

/-- A row of a table, given the content of its cells. -/
def row (cells : List (List Char)) : List Char :=
  '|' :: cells.flatMap (fun content => ' ' :: content ++ [' ', '|']) ++ ['\n']

/-- The content of the cells for the item with the given number. -/
def cells (withContext : Bool) (number : Nat) (item : Item) : List (List Char) :=
  [Nat.toDigits 10 number, '\x60' :: item.file.toList ++ ['\x60'], Nat.toDigits 10 item.line] ++
    (if withContext then [cell (item.scope.getD "")] else []) ++
    [item.kind.toList, cell item.text]

/-- The rows for items, the first of which has the given number. -/
def rows (withContext : Bool) : (number : Nat) → List Item → List Char
  | _, [] => []
  | number, item :: later =>
      row (cells withContext number item) ++ rows withContext (number + 1) later

/-- The heading of a report and of its table. -/
def header (withContext : Bool) (root : String) (found : Nat) : List Char :=
  (if withContext then "# TODO-MD v2 Report\n\n" else "# TODO-MD Report\n\n").toList ++
    "**Scanned directory:** `".toList ++ root.toList ++ "`  \n".toList ++
    "**Found:** ".toList ++ Nat.toDigits 10 found ++ " items\n\n".toList ++
    (if withContext then
      "| # | File | Line | Context | Marker | Comment |\n" ++
        "|---|------|-----:|---------|--------|---------|\n"
    else
      "| # | File | Line | Marker | Comment |\n" ++
        "|---|------|-----:|--------|---------|\n").toList

/-- The report on items found in a scan of the given directory. -/
def report (withContext : Bool) (root : String) (items : List Item) : List Char :=
  header withContext root items.length ++ rows withContext 1 items

end MarkerReport.Markdown
