import Mathlib.Data.List.Forall2
import MarkerReport.Proofs.Marker.Kinds
import MarkerReport.Proofs.Scan.Join
import MarkerReport.Proofs.Scan.Selection
import MarkerReport.Report.Markdown

/-! # Rows of a report in Markdown

A row is read by cutting its line at the bars, those right behind a backslash apart. What is escaped
stays in its cell, wherever backslashes stand in it, and so do numbers and kinds, which hold neither
bars nor line feeds. Names of files are not escaped: a report has one row with the right cells for
each item just if no name holds a line feed, or a bar that is not behind a backslash
(`MarkerReport.Scanner.report_wellFormed_iff`).
-/

namespace MarkerReport.Markdown

/-- The pieces of a text between its bars. A bar right behind a backslash is no end of a piece;
`escaped` tells whether a backslash precedes the text. -/
def splitAtBars (escaped : Bool) : List Char → List (List Char)
  | [] => [[]]
  | c :: rest =>
      if c = '|' ∧ escaped = false then [] :: splitAtBars false rest
      else (splitAtBars (c == '\\') rest).modifyHead (c :: ·)

/-- Whether each bar of a text is right behind a backslash. -/
def barsEscaped (escaped : Bool) : List Char → Bool
  | [] => true
  | c :: rest => (c != '|' || escaped) && barsEscaped (c == '\\') rest

/-- A line that bars at its ends and between its cells cut into that many cells. -/
def IsRow (columns : Nat) (line : List Char) : Prop :=
  ∃ cells : List (List Char), cells.length = columns ∧ splitAtBars false line = [] :: cells ++ [[]]

/-- How many cells a row has. -/
def columns (withContext : Bool) : Nat := if withContext then 6 else 5

/-- A report with seven lines of heading, then that many rows and nothing else. -/
def WellFormed (withContext : Bool) (count : Nat) (report : List Char) : Prop :=
  ∃ heading lines, Text.splitAtFeeds report = heading ++ lines ++ [[]] ∧ heading.length = 7 ∧
    lines.length = count ∧ ∀ line ∈ lines, IsRow (columns withContext) line

/-- The content of a cell between the bars. -/
def pad (content : List Char) : List Char := ' ' :: content ++ [' ']

/-- A line that shows an item under its number. -/
def Shows (withContext : Bool) (line : List Char) (entry : Item × Nat) : Prop :=
  splitAtBars false line = [] :: (cells withContext entry.2 entry.1).map pad ++ [[]]

/-- A text has at least one part between its bars. -/
theorem splitAtBars_ne_nil (escaped : Bool) (text : List Char) : splitAtBars escaped text ≠ [] := by
  induction text generalizing escaped with
  | nil => exact List.cons_ne_nil _ _
  | cons c rest ih =>
      rw [splitAtBars]
      split
      · exact List.cons_ne_nil _ _
      · intro empty
        exact ih _ (List.modifyHead_eq_nil_iff.mp empty)

/-- A bar behind a blank parts the pieces before it from those behind it. -/
theorem splitAtBars_append_bar (escaped : Bool) (text rest : List Char) :
    splitAtBars escaped (text ++ ' ' :: '|' :: rest) =
      splitAtBars escaped (text ++ [' ']) ++ splitAtBars false rest := by
  induction text generalizing escaped with
  | nil => simp [splitAtBars]
  | cons c text ih =>
      rw [List.cons_append, List.cons_append, splitAtBars, splitAtBars]
      split
      · rw [ih, List.cons_append]
      · rw [ih]
        cases pieces : splitAtBars (c == '\\') (text ++ [' ']) with
        | nil => exact (splitAtBars_ne_nil _ _ pieces).elim
        | cons piece later => rfl

/-- A text whose bars are all escaped is a single part. -/
theorem splitAtBars_of_barsEscaped {escaped : Bool} {text : List Char}
    (closed : barsEscaped escaped text) : splitAtBars escaped text = [text] := by
  induction text generalizing escaped with
  | nil => rfl
  | cons c rest ih =>
      rw [barsEscaped, Bool.and_eq_true] at closed
      rw [splitAtBars, if_neg, ih closed.2, List.modifyHead_cons]
      rintro ⟨rfl, rfl⟩
      exact absurd closed.1 (by decide)

/-- A text is a single part exactly when all of its bars are escaped. -/
theorem length_splitAtBars_eq_one_iff (escaped : Bool) (text : List Char) :
    (splitAtBars escaped text).length = 1 ↔ barsEscaped escaped text := by
  constructor
  · induction text generalizing escaped with
    | nil => exact fun _ => rfl
    | cons c rest ih =>
        intro single
        rw [splitAtBars] at single
        split at single
        · have more := List.length_pos_iff.mpr (splitAtBars_ne_nil false rest)
          rw [List.length_cons] at single
          omega
        · rename_i closed
          rw [List.length_modifyHead] at single
          rw [barsEscaped, ih _ single, Bool.and_true]
          by_cases bar : c = '|'
          · simpa [bar] using closed
          · simp [bar]
  · intro closed
    rw [splitAtBars_of_barsEscaped closed, List.length_singleton]

/-- A text without bars has none that is not escaped. -/
theorem barsEscaped_of_barless {text : List Char} (barless : '|' ∉ text) (escaped : Bool) :
    barsEscaped escaped text := by
  induction text generalizing escaped with
  | nil => rfl
  | cons c rest ih =>
      rw [List.mem_cons, not_or] at barless
      rw [barsEscaped, ih barless.2, bne_iff_ne.mpr (Ne.symm barless.1), Bool.true_or,
        Bool.and_true]

/-- A character other than a bar at the end escapes no bar and is none. -/
theorem barsEscaped_concat {c : Char} (other : c ≠ '|') (escaped : Bool) (text : List Char) :
    barsEscaped escaped (text ++ [c]) = barsEscaped escaped text := by
  induction text generalizing escaped with
  | nil => simp [barsEscaped, other]
  | cons d rest ih => rw [List.cons_append, barsEscaped, barsEscaped, ih]

/-- A text keeps its bars when it is put between two characters that are neither bars nor
backslashes. -/
theorem barsEscaped_between {c : Char} (other : c ≠ '|') (plain : c ≠ '\\') (text : List Char) :
    barsEscaped false (c :: text ++ [c]) = barsEscaped false text := by
  rw [List.cons_append, barsEscaped, barsEscaped_concat other, beq_false_of_ne plain,
    bne_iff_ne.mpr other, Bool.true_or, Bool.true_and]

/-- Escaping leaves no bar that ends a cell, whatever backslashes the text has of its own. -/
theorem barsEscaped_flatMap_escape (escaped : Bool) (text : List Char) :
    barsEscaped escaped (text.flatMap escape) := by
  induction text generalizing escaped with
  | nil => rfl
  | cons c rest ih =>
      rw [List.flatMap_cons, escape]
      split
      · simp [barsEscaped, ih]
      · split
        · simp [barsEscaped, ih]
        · rename_i other _
          simp [barsEscaped, ih, other]

/-- A cell stays on its line. -/
theorem feed_not_mem_cell (text : String) : '\n' ∉ cell text := by
  intro member
  obtain ⟨c, -, escaped⟩ := List.mem_flatMap.mp member
  unfold escape at escaped
  split at escaped
  · exact absurd escaped (by decide)
  · split at escaped
    · exact absurd escaped (by decide)
    · rename_i other
      exact other (List.mem_singleton.mp escaped).symm

/-- A row without the line feed at its end. -/
def line (contents : List (List Char)) : List Char :=
  '|' :: contents.flatMap fun content => ' ' :: content ++ [' ', '|']

theorem row_eq (contents : List (List Char)) : row contents = line contents ++ ['\n'] := rfl

/-- Between the two outer bars of a row lie the parts of its padded cells. -/
theorem splitAtBars_line (contents : List (List Char)) :
    splitAtBars false (line contents) =
      [] :: (contents.flatMap fun content => splitAtBars false (pad content)) ++ [[]] := by
  have behind (contents : List (List Char)) :
      splitAtBars false (contents.flatMap fun content => ' ' :: content ++ [' ', '|']) =
        (contents.flatMap fun content => splitAtBars false (pad content)) ++ [[]] := by
    induction contents with
    | nil => rfl
    | cons content later ih =>
        have first := splitAtBars_append_bar false (' ' :: content)
          (later.flatMap fun content => ' ' :: content ++ [' ', '|'])
        rw [ih] at first
        rw [List.flatMap_cons, List.flatMap_cons, List.append_assoc, List.append_assoc]
        exact first
  rw [line, splitAtBars, if_pos ⟨rfl, rfl⟩, behind, List.cons_append]

/-- Parts that are not empty have as many elements as there are parts just if each has a single
one. -/
theorem length_flatMap_eq_iff {α β : Type} {parts : α → List β} (occupied : ∀ a, parts a ≠ [])
    (list : List α) :
    (list.flatMap parts).length = list.length ↔ ∀ a ∈ list, (parts a).length = 1 := by
  have enough (list : List α) : list.length ≤ (list.flatMap parts).length := by
    induction list with
    | nil => exact Nat.le_refl 0
    | cons a later ih =>
        have first := List.length_pos_iff.mpr (occupied a)
        rw [List.flatMap_cons, List.length_append, List.length_cons]
        omega
  induction list with
  | nil => simp
  | cons a later ih =>
      have first := List.length_pos_iff.mpr (occupied a)
      have rest := enough later
      rw [List.flatMap_cons, List.length_append, List.length_cons, List.forall_mem_cons]
      constructor
      · intro total
        exact ⟨by omega, ih.mp (by omega)⟩
      · rintro ⟨single, singles⟩
        have others := ih.mpr singles
        omega

/-- A line is a row exactly if no content has a bar that ends the cell. -/
theorem isRow_line_iff (contents : List (List Char)) :
    IsRow contents.length (line contents) ↔ ∀ content ∈ contents, barsEscaped false content := by
  have single : (∀ content ∈ contents, barsEscaped false content) ↔
      (contents.flatMap fun content => splitAtBars false (pad content)).length =
        contents.length := by
    rw [length_flatMap_eq_iff fun content => splitAtBars_ne_nil false (pad content)]
    simp only [length_splitAtBars_eq_one_iff, pad,
      barsEscaped_between (by decide : ' ' ≠ '|') (by decide)]
  rw [single, IsRow, splitAtBars_line]
  constructor
  · rintro ⟨cells, count, same⟩
    rw [← count, List.append_cancel_right (List.cons.inj same).2]
  · intro count
    exact ⟨_, count, rfl⟩

/-- A row of cells without a bare bar splits into just these cells. -/
theorem splitAtBars_line_of_barsEscaped {contents : List (List Char)}
    (closed : ∀ content ∈ contents, barsEscaped false content) :
    splitAtBars false (line contents) = [] :: contents.map pad ++ [[]] := by
  have whole : (contents.flatMap fun content => splitAtBars false (pad content)) =
      contents.map pad := by
    rw [List.map_eq_flatMap]
    apply List.flatMap_congr
    intro content listed
    apply splitAtBars_of_barsEscaped
    rw [pad, barsEscaped_between (by decide) (by decide)]
    exact closed content listed
  rw [splitAtBars_line, whole]

/-- A row breaks exactly where one of its cells does. -/
theorem feed_mem_line_iff (contents : List (List Char)) :
    '\n' ∈ line contents ↔ ∃ content ∈ contents, '\n' ∈ content := by
  simp [line]

/-- An item whose kind neither ends its cell nor its line. -/
def HasPlainKind (item : Item) : Prop := '|' ∉ item.kind.toList ∧ '\n' ∉ item.kind.toList

/-- What holds of numbers, of the kind and of escaped texts holds of all the cells of an item just
if it holds of the one for the file. -/
theorem forall_mem_cells_iff {P : List Char → Prop} (withContext : Bool) (number : Nat)
    (item : Item) (digits : ∀ n, P (Nat.toDigits 10 n)) (escaped : ∀ text, P (cell text))
    (kind : P item.kind.toList) :
    (∀ content ∈ cells withContext number item, P content) ↔
      P ('\x60' :: item.file.toList ++ ['\x60']) := by
  cases withContext <;> simp [cells, digits, escaped, kind]

/-- The decimal digits of a number are digits only. -/
theorem not_mem_toDigits {c : Char} (other : c.isDigit = false) (n : Nat) :
    c ∉ Nat.toDigits 10 n := by
  intro member
  have digit := Nat.isDigit_of_mem_toDigits (by decide) (by decide) member
  rw [other] at digit
  exact Bool.noConfusion digit

/-- Of what stands in the cells of an item, only the file may hold a bar that ends a cell. -/
theorem barsEscaped_cells_iff (withContext : Bool) (number : Nat) {item : Item}
    (plain : HasPlainKind item) :
    (∀ content ∈ cells withContext number item, barsEscaped false content) ↔
      barsEscaped false item.file.toList := by
  rw [forall_mem_cells_iff withContext number item, barsEscaped_between (by decide) (by decide)]
  · intro n
    exact barsEscaped_of_barless (not_mem_toDigits (by decide) n) false
  · intro text
    exact barsEscaped_flatMap_escape false text.toList
  · exact barsEscaped_of_barless plain.1 false

/-- Of what stands in the cells of an item, only the file may hold a line feed. -/
theorem feedless_line_iff (withContext : Bool) (number : Nat) {item : Item}
    (plain : HasPlainKind item) :
    '\n' ∉ line (cells withContext number item) ↔ '\n' ∉ item.file.toList := by
  have inside : '\n' ∉ '\x60' :: item.file.toList ++ ['\x60'] ↔ '\n' ∉ item.file.toList := by simp
  rw [feed_mem_line_iff, ← inside]
  simp only [not_exists, not_and]
  apply forall_mem_cells_iff withContext number item
  · exact not_mem_toDigits (by decide)
  · exact feed_not_mem_cell
  · exact plain.2

/-- A name that is no end of its cell or of its line. -/
def StaysInCell (name : String) : Prop :=
  '\n' ∉ name.toList ∧ barsEscaped false name.toList

instance (name : String) : Decidable (StaysInCell name) :=
  inferInstanceAs (Decidable ('\n' ∉ name.toList ∧ barsEscaped false name.toList))

/-- The lines for items, the first of which has the given number. -/
def linesFrom (withContext : Bool) (number : Nat) (items : List Item) : List (List Char) :=
  (items.zipIdx number).map fun entry => line (cells withContext entry.2 entry.1)

theorem linesFrom_cons (withContext : Bool) (number : Nat) (item : Item) (later : List Item) :
    linesFrom withContext number (item :: later) =
      line (cells withContext number item) :: linesFrom withContext (number + 1) later := rfl

/-- Every item has one cell for each column. -/
theorem length_cells (withContext : Bool) (number : Nat) (item : Item) :
    (cells withContext number item).length = columns withContext := by
  cases withContext <;> rfl

/-- Split at the feeds, the rows give the lines of the items one after the other. -/
theorem splitAtFeeds_rows (withContext : Bool) (number : Nat) (items : List Item) :
    Text.splitAtFeeds (rows withContext number items) =
      (linesFrom withContext number items).flatMap Text.splitAtFeeds ++ [[]] := by
  induction items generalizing number with
  | nil => rfl
  | cons item later ih =>
      rw [rows, row_eq, List.append_assoc, List.singleton_append, Text.splitAtFeeds_append_feed, ih,
        linesFrom_cons, List.flatMap_cons, List.append_assoc]

/-- The header has seven lines, if the name of the root stays on its own. -/
theorem countFeeds_header (withContext : Bool) {root : String} (feedless : '\n' ∉ root.toList)
    (found : Nat) : Text.countFeeds (header withContext root found) = 7 := by
  have number := not_mem_toDigits (by decide : '\n'.isDigit = false) found
  unfold header Text.countFeeds
  rw [List.count_append, List.count_append, List.count_append, List.count_append,
    List.count_append, List.count_append, List.count_append, List.count_eq_zero.mpr feedless,
    List.count_eq_zero.mpr number]
  cases withContext <;> decide +kernel

theorem getLast?_header (withContext : Bool) (root : String) (found : Nat) :
    (header withContext root found).getLast? = some '\n' := by
  rw [header, List.getLast?_append, Option.or_eq_some_iff]
  cases withContext <;> exact .inl (by decide +kernel)

/-- Seven lines of heading, then the lines of the items. -/
theorem exists_splitAtFeeds_report (withContext : Bool) {root : String}
    (feedless : '\n' ∉ root.toList) (items : List Item) :
    ∃ heading, heading.length = 7 ∧ Text.splitAtFeeds (report withContext root items) =
      heading ++ (linesFrom withContext 1 items).flatMap Text.splitAtFeeds ++ [[]] := by
  obtain ⟨front, ends⟩ := List.getLast?_eq_some_iff.mp
    (getLast?_header withContext root items.length)
  refine ⟨Text.splitAtFeeds front, ?_, ?_⟩
  · have feeds := countFeeds_header withContext feedless items.length
    rw [ends, Text.countFeeds, List.count_append, List.count_singleton_self] at feeds
    rw [Text.length_splitAtFeeds, Text.countFeeds, feeds]
  · rw [report, ends, List.append_assoc, List.singleton_append, Text.splitAtFeeds_append_feed,
      splitAtFeeds_rows, List.append_assoc]

/-- A text is a single line exactly when it has no feed. -/
theorem length_splitAtFeeds_eq_one_iff (cs : List Char) :
    (Text.splitAtFeeds cs).length = 1 ↔ '\n' ∉ cs := by
  rw [Text.length_splitAtFeeds, Text.countFeeds, Nat.add_eq_right, List.count_eq_zero]

/-- Lines without feeds are not split any further. -/
theorem flatMap_splitAtFeeds_of_feedless {lines : List (List Char)}
    (feedless : ∀ line ∈ lines, '\n' ∉ line) : lines.flatMap Text.splitAtFeeds = lines := by
  conv_rhs => rw [← List.flatMap_singleton' lines]
  apply List.flatMap_congr
  intro line listed
  exact Text.splitAtFeeds_of_feedless (feedless line listed)

/-- A property of a row that depends on the item alone holds of all rows exactly when it does for
all items. -/
theorem forall_mem_linesFrom_iff {P : List Char → Prop} {Q : Item → Prop} (withContext : Bool)
    (number : Nat) {items : List Item} (each : ∀ item ∈ items, ∀ number,
      P (line (cells withContext number item)) ↔ Q item) :
    (∀ line ∈ linesFrom withContext number items, P line) ↔ ∀ item ∈ items, Q item := by
  induction items generalizing number with
  | nil => simp [linesFrom]
  | cons item later ih =>
      have behind := ih (number + 1) fun other listed =>
        each other (List.mem_cons_of_mem item listed)
      rw [linesFrom_cons, List.forall_mem_cons, List.forall_mem_cons,
        each item List.mem_cons_self number, behind]

section

variable {items : List Item} (plain : ∀ item ∈ items, HasPlainKind item) (withContext : Bool)

include plain

/-- No row breaks exactly when no path of a file has a feed: the other cells are on one line. -/
theorem feedless_linesFrom_iff :
    (∀ line ∈ linesFrom withContext 1 items, '\n' ∉ line) ↔
      ∀ item ∈ items, '\n' ∉ item.file.toList := by
  apply forall_mem_linesFrom_iff
  intro item listed number
  exact feedless_line_iff withContext number (plain item listed)

/-- All rows have as many cells as columns exactly when no path of a file has a bare bar. -/
theorem isRow_linesFrom_iff :
    (∀ line ∈ linesFrom withContext 1 items, IsRow (columns withContext) line) ↔
      ∀ item ∈ items, barsEscaped false item.file.toList := by
  apply forall_mem_linesFrom_iff
  intro item listed number
  rw [← length_cells withContext number item, isRow_line_iff]
  exact barsEscaped_cells_iff withContext number (plain item listed)

/-- A report is well formed exactly if all names of files stay in their cells. -/
theorem wellFormed_report_iff {root : String} (feedless : '\n' ∉ root.toList) :
    WellFormed withContext items.length (report withContext root items) ↔
      ∀ item ∈ items, StaysInCell item.file := by
  obtain ⟨heading, seven, split⟩ := exists_splitAtFeeds_report withContext feedless items
  have count : (linesFrom withContext 1 items).length = items.length := by
    rw [linesFrom, List.length_map, List.length_zipIdx]
  unfold StaysInCell
  rw [forall₂_and, ← feedless_linesFrom_iff plain withContext,
    ← isRow_linesFrom_iff plain withContext]
  constructor
  · rintro ⟨other, lines, same, otherSeven, length, rows⟩
    -- The headings have one length, so the lines behind them are the same.
    rw [split] at same
    have behind := List.append_inj (List.append_cancel_right same) (seven.trans otherSeven.symm)
    rw [← behind.2, ← count, length_flatMap_eq_iff Text.splitAtFeeds_ne_nil] at length
    have whole : ∀ line ∈ linesFrom withContext 1 items, '\n' ∉ line := by
      intro line listed
      exact (length_splitAtFeeds_eq_one_iff line).mp (length line listed)
    rw [← behind.2, flatMap_splitAtFeeds_of_feedless whole] at rows
    exact ⟨whole, rows⟩
  · rintro ⟨whole, rows⟩
    rw [flatMap_splitAtFeeds_of_feedless whole] at split
    exact ⟨heading, _, split, seven, count, rows⟩

/-- If all names of files stay in their cells, the lines show the items in their order. -/
theorem exists_lines_report {root : String} (feedless : '\n' ∉ root.toList)
    (contained : ∀ item ∈ items, StaysInCell item.file) :
    ∃ heading lines, heading.length = 7 ∧
      Text.splitAtFeeds (report withContext root items) = heading ++ lines ++ [[]] ∧
      List.Forall₂ (Shows withContext) lines (items.zipIdx 1) := by
  obtain ⟨heading, seven, split⟩ := exists_splitAtFeeds_report withContext feedless items
  have whole := (feedless_linesFrom_iff plain withContext).mpr fun item listed =>
    (contained item listed).1
  rw [flatMap_splitAtFeeds_of_feedless whole] at split
  refine ⟨heading, _, seven, split, ?_⟩
  rw [linesFrom, List.forall₂_map_left_iff, List.forall₂_same]
  intro entry listed
  have member : entry.1 ∈ items := by
    have shown := List.mem_map_of_mem (f := Prod.fst) listed
    rwa [List.zipIdx_map_fst] at shown
  apply splitAtBars_line_of_barsEscaped
  exact (barsEscaped_cells_iff withContext entry.2 (plain entry.1 member)).mpr
    (contained entry.1 member).2

end

end MarkerReport.Markdown

namespace MarkerReport.Scanner

open Markdown

/-- The lists of items that a scanner comes back with. -/
inductive Returns (scanner : Scanner) : List Item → Prop
  | source (path : String) (source : List Char) : Returns scanner (scanner.scanSource path source)
  | file (tree : FileTree) (path : String) : Returns scanner (scanner.scanFile tree path)
  | files (tree : FileTree) (paths : List String) :
      Returns scanner (scanner.scanFiles tree paths).toList
  | scan {tree : FileTree} {root : String} {outcome : Outcome}
      (scanned : scanner.scan tree root = .ok outcome) : Returns scanner outcome.toList

/-- Every item a scan returns is one of the items of some source. -/
theorem Returns.exists_source {scanner : Scanner} {items : List Item}
    (returned : scanner.Returns items) {item : Item} (member : item ∈ items) :
    ∃ path source, item ∈ scanner.scanSource path source := by
  cases returned with
  | source path source => exact ⟨path, source, member⟩
  | file tree path => exact ⟨path, exists_source_of_mem_scanFile member⟩
  | files tree paths => exact exists_source_of_mem_scanFiles member
  | scan scanned => exact exists_source_of_mem_scan scanned member

/-- The kinds that a scan returns never break a row: a bar and a feed are no characters of a marker
and no capitals of any. -/
theorem Returns.hasPlainKind {settings : Settings} {scanner : Scanner}
    (ready : ofSettings settings = .ok scanner) {items : List Item}
    (returned : scanner.Returns items) : ∀ item ∈ items, HasPlainKind item := by
  intro item member
  obtain ⟨valid, -, accepted⟩ := ofSettings_eq_ok_iff.mp ready
  obtain ⟨path, source, found⟩ := returned.exists_source member
  rw [scanSource_eq_map, List.mem_map] at found
  obtain ⟨finding, extracted, rfl⟩ := found
  constructor
  · exact Settings.not_mem_kind_of_mem_extract valid accepted extracted (by decide) (by decide)
  · exact Settings.not_mem_kind_of_mem_extract valid accepted extracted (by decide) (by decide)

/-- The report on what a scanner comes back with has one row for each item, with all the cells,
exactly if every name of a file stays in its cell. The rows then show the items in their order. -/
theorem report_wellFormed_iff {settings : Settings} {scanner : Scanner}
    (ready : ofSettings settings = .ok scanner) {items : List Item}
    (returned : scanner.Returns items) {root : String} (feedless : '\n' ∉ root.toList)
    (withContext : Bool) :
    (WellFormed withContext items.length (report withContext root items) ↔
      ∀ item ∈ items, StaysInCell item.file) ∧
    ((∀ item ∈ items, StaysInCell item.file) →
      ∃ heading lines, heading.length = 7 ∧
        Text.splitAtFeeds (report withContext root items) = heading ++ lines ++ [[]] ∧
        List.Forall₂ (Shows withContext) lines (items.zipIdx 1)) := by
  have plain := returned.hasPlainKind ready
  exact ⟨wellFormed_report_iff plain withContext feedless,
    exists_lines_report plain withContext feedless⟩

/-- Bars in a text and an escaped bar in the name of the file. -/
theorem report_wellFormed_iff_escaped :
    ofSettings .legacy = .ok ⟨.legacy, .default⟩ ∧
    scanSource ⟨.legacy, .default⟩ "a\\|b.py" "TODO: x\\| |y\nFIXME z".toList =
      [⟨"a\\|b.py", 1, none, "TODO", "x\\| |y"⟩, ⟨"a\\|b.py", 2, none, "FIXME", "z"⟩] ∧
    WellFormed true 2 (report true "." [⟨"a\\|b.py", 1, none, "TODO", "x\\| |y"⟩,
      ⟨"a\\|b.py", 2, none, "FIXME", "z"⟩]) := by
  have ready : ofSettings .legacy = .ok ⟨.legacy, .default⟩ := by decide +kernel
  have found : scanSource ⟨.legacy, .default⟩ "a\\|b.py" "TODO: x\\| |y\nFIXME z".toList =
      [⟨"a\\|b.py", 1, none, "TODO", "x\\| |y"⟩, ⟨"a\\|b.py", 2, none, "FIXME", "z"⟩] := by
    decide +kernel
  refine ⟨ready, found, (report_wellFormed_iff ready (found ▸ .source _ _) ?_ true).1.mpr ?_⟩
  · decide
  · decide

/-- A bar in the name of a file is one more end of a cell. -/
theorem report_wellFormed_fails :
    ∃ (tree : FileTree) (item : Item),
      tree = ⟨[(["a|b.py"], .file (Utf8.encode "# TODO: x\n".toList))], []⟩ ∧
      item = ⟨"./a|b.py", 1, some "<module>", "TODO", "x"⟩ ∧
      ofSettings .default = .ok ⟨.default, .default⟩ ∧
      scan ⟨.default, .default⟩ tree "." = .ok (.ofItems [item]) ∧
      ¬ WellFormed true 1 (report true "." [item]) := by
  refine ⟨_, _, rfl, rfl, by decide +kernel, ?_, ?_⟩
  · obtain ⟨tree, same⟩ : ∃ tree : FileTree,
        tree = ⟨[(["a|b.py"], .file (Utf8.encode "# TODO: x\n".toList))], []⟩ := ⟨_, rfl⟩
    have discovered : tree.discover .default "." = .ok ["./a|b.py"] := by
      apply @FileTree.discover_of_filesBelow _ _ [] _ [] _ rfl
      · have steps : Step.ofPath? "." = some [.stay] := by decide +kernel
        simp [same, FileTree.find, FileTree.locate, steps, FileTree.follow, FileTree.lookup]
      · rw [same]
        decide +kernel
    have read : tree.readSource "./a|b.py" = .ok "# TODO: x\n".toList := by
      have steps : Step.ofPath? "./a|b.py" = some [.stay, .enter "a|b.py"] := by decide +kernel
      have bytes : tree.read "./a|b.py" = .ok (Utf8.encode "# TODO: x\n".toList) := by
        simp [same, FileTree.read, FileTree.find, FileTree.locate, steps, FileTree.follow,
          FileTree.lookup]
      rw [FileTree.readSource, bytes]
      decide +kernel
    have found : scanSource ⟨.default, .default⟩ "./a|b.py" "# TODO: x\n".toList =
        [⟨"./a|b.py", 1, some "<module>", "TODO", "x"⟩] := by
      have areWords : Keywords.default.AreWords := by decide +kernel
      simp only [scanSource_eq_map, findings, Finding.extract, Finding.inComments,
        Finding.inComment_eq_of_areWords areWords]
      decide +kernel
    rw [← same, ← found]
    exact @scan_of_discover ⟨.default, .default⟩ _ _ _ _ discovered read
  · intro wellFormed
    have plain : ∀ item ∈ [(⟨"./a|b.py", 1, some "<module>", "TODO", "x"⟩ : Item)],
        HasPlainKind item := by
      simp [HasPlainKind]
    have contained := (wellFormed_report_iff plain true (by decide)).mp wellFormed
    exact absurd contained (by decide)

end MarkerReport.Scanner
