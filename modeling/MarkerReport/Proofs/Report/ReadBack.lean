import MarkerReport.Proofs.Report.Rows

/-! # Reading a report in Markdown back

The rows of a report are its last lines. A row is cut at its bars, those right behind a backslash
apart; each cell loses the blank at either end, and each bar in it the backslash before it. Escaping
puts one backslash before each bar and leaves the backslashes of a text alone. They do no harm: no
escaped text starts with a bar, so a backslash of the text never stands right before a bar, and the
one that is taken away again is the one that was put in.

So a report tells of every item all that a row has a cell for, line feeds in scopes and texts apart
(`MarkerReport.Markdown.rows_read_back`).
-/

namespace MarkerReport.Text

theorem dropReturn_of_getLast?_ne {line : List Char} (ends : line.getLast? ≠ some '\r') :
    dropReturn line = line := by
  rcases eq_dropReturn_or line with same | longer
  · exact same.symm
  · rw [longer, List.getLast?_concat] at ends
    exact (ends rfl).elim

/-- The lines up to a line feed, and those behind it. -/
theorem lines_append_feed_append (front rest : List Char) :
    lines (front ++ '\n' :: rest) = lines (front ++ ['\n']) ++ lines rest := by
  induction front using byLines with
  | last line feedless =>
      rw [lines_append_feed feedless, lines_append_feed feedless]
      rfl
  | feed line later feedless ih =>
      rw [List.append_assoc, List.append_assoc, List.cons_append, List.cons_append,
        lines_append_feed feedless, lines_append_feed feedless, ih, List.cons_append]

/-- Lines that are printed come back, if none of them holds a line feed or ends in a carriage
return. -/
theorem lines_flatMap_feed {texts : List (List Char)}
    (whole : ∀ line ∈ texts, '\n' ∉ line ∧ line.getLast? ≠ some '\r') (rest : List Char) :
    lines (texts.flatMap (· ++ ['\n']) ++ rest) = texts ++ lines rest := by
  induction texts with
  | nil => rfl
  | cons line later ih =>
      rw [List.forall_mem_cons] at whole
      rw [List.flatMap_cons, List.append_assoc, List.append_assoc, List.singleton_append,
        lines_append_feed whole.1.1, dropReturn_of_getLast?_ne whole.1.2, ih whole.2,
        List.cons_append]

end MarkerReport.Text

namespace MarkerReport.Markdown

/-- What stands between a character at the start of a text and the same one at its end. -/
def between? (mark : Char) : List Char → Option (List Char)
  | [] => none
  | c :: rest => if c = mark ∧ rest.getLast? = some mark then some rest.dropLast else none

/-- Deletes the backslash right before each bar. -/
def unescape : List Char → List Char
  | '\\' :: '|' :: rest => '|' :: unescape rest
  | c :: rest => c :: unescape rest
  | [] => []

/-- The content of the cells of a row. -/
def readCells? (line : List Char) : Option (List (List Char)) :=
  match splitAtBars false line with
  | [] :: pieces =>
      if pieces.getLast? = some [] then
        pieces.dropLast.mapM fun piece => (between? ' ' piece).map unescape
      else none
  | _ => none

/-- The number that digits stand for. -/
def readNumber? (digits : List Char) : Option Nat :=
  if digits ≠ [] ∧ digits.all Char.isDigit then some (Nat.ofDigitChars 10 digits 0) else none

/-- The item that the cells of a row tell of, and its number. -/
def readItem? (number file line : List Char) (scope : Option (List Char)) (kind text : List Char) :
    Option (Item × Nat) := do
  let name ← between? '\x60' file
  let place ← readNumber? line
  let count ← readNumber? number
  return (⟨String.ofList name, place, scope.map String.ofList, String.ofList kind,
    String.ofList text⟩, count)

/-- Reads a row. -/
def readRow? (withContext : Bool) (line : List Char) : Option (Item × Nat) :=
  match withContext, readCells? line with
  | true, some [number, file, line, scope, kind, text] =>
      readItem? number file line (some scope) kind text
  | false, some [number, file, line, kind, text] => readItem? number file line none kind text
  | _, _ => none

/-- A text with blanks in the place of its line feeds. -/
def onOneLine (text : String) : String := text.map fun c => if c = '\n' then ' ' else c

/-- An item as its row shows it. -/
def shown (withContext : Bool) (item : Item) : Item :=
  { item with
    scope := if withContext then some (onOneLine (item.scope.getD "")) else none
    text := onOneLine item.text }

/-- Only a backslash before a bar is more than itself to the reader. -/
theorem unescape_cons {c : Char} {rest : List Char} (plain : c ≠ '\\' ∨ rest.head? ≠ some '|') :
    unescape (c :: rest) = c :: unescape rest := by
  rw [unescape]
  rintro later rfl rfl
  simp at plain

/-- A text without bars has nothing to unescape. -/
theorem unescape_of_barless {text : List Char} (barless : '|' ∉ text) : unescape text = text := by
  induction text with
  | nil => rfl
  | cons c rest ih =>
      rw [List.mem_cons, not_or] at barless
      have next : rest.head? ≠ some '|' := fun bar => barless.2 (List.mem_of_head? bar)
      rw [unescape_cons (.inr next), ih barless.2]

/-- A bar of an escaped text is behind the backslash that was put in before it. -/
theorem head?_flatMap_escape_ne_bar (text : List Char) :
    (text.flatMap escape).head? ≠ some '|' := by
  cases text with
  | nil => simp
  | cons c rest =>
      rw [List.flatMap_cons, escape]
      split
      · simp
      · split
        · simp
        · simpa using ‹c ≠ '|'›

/-- Reading a cell undoes its escapes and leaves a blank for every line feed. -/
theorem unescape_flatMap_escape (text : List Char) :
    unescape (text.flatMap escape) = text.map fun c => if c = '\n' then ' ' else c := by
  induction text with
  | nil => rfl
  | cons c rest ih =>
      rw [List.flatMap_cons, List.map_cons, ← ih, escape]
      by_cases bar : c = '|'
      · subst bar
        rfl
      · rw [if_neg bar]
        by_cases feed : c = '\n'
        · rw [if_pos feed, if_pos feed]
          exact unescape_cons (.inl (by decide))
        · rw [if_neg feed, if_neg feed]
          exact unescape_cons (.inr (head?_flatMap_escape_ne_bar rest))

/-- A cell is read back as its text on one line. -/
theorem unescape_cell (text : String) : unescape (cell text) = (onOneLine text).toList := by
  rw [cell, unescape_flatMap_escape, onOneLine, String.toList_map]

/-- What is put between two marks is read back from there. -/
theorem between?_eq (mark : Char) (content : List Char) :
    between? mark (mark :: content ++ [mark]) = some content := by
  rw [List.cons_append, between?, if_pos ⟨rfl, List.getLast?_concat⟩, List.dropLast_concat]

/-- A number is read back from its decimal digits. -/
theorem readNumber?_toDigits (n : Nat) : readNumber? (Nat.toDigits 10 n) = some n := by
  rw [readNumber?, if_pos, Nat.ofDigitChars_ten_toDigits]
  refine ⟨Nat.toDigits_ne_nil, List.all_eq_true.mpr fun c member => ?_⟩
  exact Nat.isDigit_of_mem_toDigits (by decide) (by decide) member

/-- Cells without a bare bar are read back from the row they make, one by one. -/
theorem readCells?_line {contents : List (List Char)}
    (closed : ∀ content ∈ contents, barsEscaped false content) :
    readCells? (line contents) = some (contents.map unescape) := by
  have read (contents : List (List Char)) :
      (contents.map pad).mapM (fun piece => (between? ' ' piece).map unescape) =
        some (contents.map unescape) := by
    induction contents with
    | nil => rfl
    | cons content later ih =>
        have first : between? ' ' (pad content) = some content := between?_eq ' ' content
        simp [first, ih]
  rw [readCells?, splitAtBars_line_of_barsEscaped closed, List.cons_append]
  simp only [List.getLast?_concat, List.dropLast_concat, if_true, read]

/-- A text that holds neither a bar nor a line feed. -/
def IsPlain (text : String) : Prop := '|' ∉ text.toList ∧ '\n' ∉ text.toList

instance (text : String) : Decidable (IsPlain text) :=
  inferInstanceAs (Decidable ('|' ∉ text.toList ∧ '\n' ∉ text.toList))

section

variable {item : Item} (plain : IsPlain item.file ∧ IsPlain item.kind) (withContext : Bool)
  (number : Nat)

include plain

/-- The contents of the cells of an item: its number, its file between backticks, its line, and the
scope, the kind and the text on one line each. -/
theorem map_unescape_cells :
    (cells withContext number item).map unescape =
      [Nat.toDigits 10 number, '\x60' :: item.file.toList ++ ['\x60'],
        Nat.toDigits 10 item.line] ++
      (if withContext then [(onOneLine (item.scope.getD "")).toList] else []) ++
      [item.kind.toList, (onOneLine item.text).toList] := by
  have digits (n : Nat) : unescape (Nat.toDigits 10 n) = Nat.toDigits 10 n :=
    unescape_of_barless (not_mem_toDigits (by decide) n)
  have file : unescape ('\x60' :: item.file.toList ++ ['\x60']) =
      '\x60' :: item.file.toList ++ ['\x60'] :=
    unescape_of_barless (by simpa using plain.1.1)
  have kind : unescape item.kind.toList = item.kind.toList := unescape_of_barless plain.2.1
  rw [cells, List.map_append, List.map_append]
  cases withContext <;> simp only [List.map_cons, List.map_nil, digits, file, kind, unescape_cell,
    Bool.false_eq_true, if_true, if_false]

/-- The row of an item is read as what it shows of the item. -/
theorem readRow?_line :
    readRow? withContext (line (cells withContext number item)) =
      some (shown withContext item, number) := by
  have closed := (barsEscaped_cells_iff withContext number plain.2).mpr
    (barsEscaped_of_barless plain.1.1 false)
  unfold readRow?
  rw [readCells?_line closed, map_unescape_cells plain]
  have name := between?_eq '\x60' item.file.toList
  rw [List.cons_append] at name
  cases withContext <;> simp [readItem?, readNumber?_toDigits, name, shown]

end

/-- The line of a report that tells how many items there are. -/
def foundLine (count : Nat) : List Char :=
  "**Found:** ".toList ++ Nat.toDigits 10 count ++ " items".toList

/-- The lines between the one with the number of items and the first row. -/
def tableHead (withContext : Bool) : List (List Char) :=
  if withContext then
    [[], "| # | File | Line | Context | Marker | Comment |".toList,
      "|---|------|-----:|---------|--------|---------|".toList]
  else
    [[], "| # | File | Line | Marker | Comment |".toList,
      "|---|------|-----:|--------|---------|".toList]

theorem getLast?_line (contents : List (List Char)) : (line contents).getLast? = some '|' := by
  cases contents using List.reverseRecOn with
  | nil => rfl
  | append_singleton earlier last =>
      have ends : line (earlier ++ [last]) = line earlier ++ ' ' :: last ++ [' '] ++ ['|'] := by
        simp [line]
      rw [ends, List.getLast?_concat]

/-- The rows of a report are its lines, each ended by a feed. -/
theorem rows_eq_flatMap (withContext : Bool) (number : Nat) (items : List Item) :
    rows withContext number items =
      (linesFrom withContext number items).flatMap (· ++ ['\n']) := by
  induction items generalizing number with
  | nil => rfl
  | cons item later ih => rw [rows, row_eq, linesFrom_cons, List.flatMap_cons, ih]

/-- Whatever the root is called, the header goes on with the count and the head of the table on
lines of their own. -/
theorem exists_header_eq (withContext : Bool) (root : String) (found : Nat) :
    ∃ opening, header withContext root found =
      opening ++ '\n' :: (foundLine found :: tableHead withContext).flatMap (· ++ ['\n']) := by
  have closing : "`  \n".toList = "`  ".toList ++ ['\n'] := by decide +kernel
  have items : " items\n\n".toList = " items".toList ++ ['\n', '\n'] := by decide +kernel
  refine ⟨(if withContext then "# TODO-MD v2 Report\n\n" else "# TODO-MD Report\n\n").toList ++
    "**Scanned directory:** `".toList ++ root.toList ++ "`  ".toList, ?_⟩
  have table : (if withContext then
        "| # | File | Line | Context | Marker | Comment |\n" ++
          "|---|------|-----:|---------|--------|---------|\n"
      else
        "| # | File | Line | Marker | Comment |\n" ++
          "|---|------|-----:|--------|---------|\n").toList =
      (tableHead withContext).tail.flatMap (· ++ ['\n']) := by
    cases withContext <;> decide +kernel
  have blank : tableHead withContext = [] :: (tableHead withContext).tail := by
    cases withContext <;> rfl
  -- The parts are put together as variables, so that no rewriting has to look into the literals.
  have joined {title label root closed mark found count units unit table rules : List Char}
      (closing : closed = mark ++ ['\n']) (items : units = unit ++ ['\n', '\n'])
      (same : table = rules) :
      title ++ label ++ root ++ closed ++ found ++ count ++ units ++ table =
        title ++ label ++ root ++ mark ++
          '\n' :: ((found ++ count ++ unit) ++ ['\n'] ++ ([] ++ ['\n'] ++ rules)) := by
    simp [closing, items, same]
  rw [blank, List.flatMap_cons, List.flatMap_cons]
  exact joined closing items table

/-- The count and the head of the table are whole lines, which no reader of lines cuts or trims. -/
theorem whole_of_mem_heading (withContext : Bool) (found : Nat) :
    ∀ line ∈ foundLine found :: tableHead withContext,
      '\n' ∉ line ∧ line.getLast? ≠ some '\r' := by
  rw [List.forall_mem_cons]
  refine ⟨⟨?_, ?_⟩, ?_⟩
  · have digits := not_mem_toDigits (by decide : '\n'.isDigit = false) found
    exact List.not_mem_append (List.not_mem_append (by decide +kernel) digits) (by decide +kernel)
  · have ends (front : List Char) {back : List Char} (last : back.getLast? = some 's') :
        (front ++ back).getLast? ≠ some '\r' := by
      simp [last]
    exact ends _ (by decide +kernel)
  · cases withContext <;> decide +kernel

/-- The line with the number of items, the head of the table and the rows are the last lines of a
report, whatever the label of the directory holds. -/
theorem exists_lines_report_eq (withContext : Bool) (root : String) {items : List Item}
    (feedless : ∀ line ∈ linesFrom withContext 1 items, '\n' ∉ line) :
    ∃ opening, Text.lines (report withContext root items) =
      opening ++ (foundLine items.length :: tableHead withContext) ++
        linesFrom withContext 1 items := by
  have whole : ∀ line ∈ linesFrom withContext 1 items,
      '\n' ∉ line ∧ line.getLast? ≠ some '\r' := by
    intro text listed
    obtain ⟨entry, -, rfl⟩ := List.mem_map.mp listed
    refine ⟨feedless _ listed, ?_⟩
    rw [getLast?_line]
    decide
  have last : Text.lines (rows withContext 1 items) = linesFrom withContext 1 items := by
    have printed := Text.lines_flatMap_feed whole []
    rwa [List.append_nil, ← rows_eq_flatMap, show Text.lines [] = [] from rfl,
      List.append_nil] at printed
  obtain ⟨opening, split⟩ := exists_header_eq withContext root items.length
  refine ⟨Text.lines (opening ++ ['\n']), ?_⟩
  rw [report, split, List.append_assoc, List.cons_append, Text.lines_append_feed_append,
    Text.lines_flatMap_feed (whole_of_mem_heading withContext items.length), last,
    List.append_assoc]

/-- The last lines of a report, one for each item, are read back as what they show of the items, in
their order and with numbers counted from one. The header gives the number of these lines. -/
theorem rows_read_back (withContext : Bool) (root : String) (items : List Item)
    (plain : ∀ item ∈ items, IsPlain item.file ∧ IsPlain item.kind) :
    ∃ opening table, Text.lines (report withContext root items) =
        opening ++ (foundLine table.length :: tableHead withContext) ++ table ∧
      table.length = items.length ∧
      table.map (readRow? withContext) =
        (items.zipIdx 1).map fun entry => some (shown withContext entry.1, entry.2) := by
  have feedless := (feedless_linesFrom_iff (fun item listed => (plain item listed).2)
    withContext).mpr fun item listed => (plain item listed).1.2
  have count : (linesFrom withContext 1 items).length = items.length := by
    rw [linesFrom, List.length_map, List.length_zipIdx]
  obtain ⟨opening, split⟩ := exists_lines_report_eq withContext root feedless
  refine ⟨opening, linesFrom withContext 1 items, by rw [split, count], count, ?_⟩
  rw [linesFrom, List.map_map]
  apply List.map_congr_left
  intro entry listed
  have member : entry.1 ∈ items := List.fst_mem_of_mem_zipIdx listed
  exact readRow?_line (plain entry.1 member) withContext entry.2

/-- A scope and a text with bars and backslashes side by side, at the ends of their cells as well,
and a label that looks like the head of a report. -/
theorem rows_read_back_backslashes :
    IsPlain "a\\.py" ∧ IsPlain "TODO" ∧
    (shown true ⟨"a\\.py", 7, some "|\\", "TODO", "\\|\nb\\\\|"⟩).text = "\\| b\\\\|" ∧
    ∃ opening table,
      Text.lines (report true "r`  \n**Found:** 9 items\n"
          [⟨"a\\.py", 7, some "|\\", "TODO", "\\|\nb\\\\|"⟩, ⟨"a\\.py", 9, none, "TODO", ""⟩]) =
        opening ++ (foundLine table.length :: tableHead true) ++ table ∧
      table.length = 2 ∧
      table.map (readRow? true) =
        [some (⟨"a\\.py", 7, some "|\\", "TODO", "\\| b\\\\|"⟩, 1),
          some (⟨"a\\.py", 9, some "", "TODO", ""⟩, 2)] := by
  have file : IsPlain "a\\.py" := by decide +kernel
  have kind : IsPlain "TODO" := by decide +kernel
  refine ⟨file, kind, by decide +kernel, ?_⟩
  obtain ⟨opening, table, split, count, read⟩ := rows_read_back true "r`  \n**Found:** 9 items\n"
    [⟨"a\\.py", 7, some "|\\", "TODO", "\\|\nb\\\\|"⟩, ⟨"a\\.py", 9, none, "TODO", ""⟩]
    (by simp [file, kind])
  refine ⟨opening, table, split, count, ?_⟩
  rw [read]
  decide +kernel

end MarkerReport.Markdown
