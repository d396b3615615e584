import Mathlib.Data.List.DropRight
import MarkerReport.Proofs.Yaml.Scalars

/-! # Literal blocks that are read back

A text is cut in two where the line breaks at its end start. The lines of the first part are read
one by one, each without its indentation; which of the line breaks behind it count is told by a sign
in front of the block, and the printer has chosen that sign such that all of them do
(`MarkerReport.Yaml.blockScalar_printed`).
-/

namespace MarkerReport.Yaml

theorem andThen_nil (read : Option (List Char × List Glyph)) : andThen [] read = read := by
  cases read with
  | none => rfl
  | some found => rfl

namespace BlockPlace

/-- The line breaks that have been read and not yet been given. -/
def pending : BlockPlace → List Char
  | .lineStart last _ empty => last ++ empty
  | .line _ => []

/-- Whether a line starts here. -/
def isFresh : BlockPlace → Bool
  | .lineStart .. => true
  | .line _ => false

end BlockPlace

theorem column_after_indentation {place : Place} (column : place.column = 0) :
    (place.after indentation).column = 2 := by
  have inLine : ∀ c ∈ indentation, isBreak c = false := by simp [indentation, isBreak]
  rw [place.after_of_not_break inLine, column]
  rfl

section Lines

variable {chomping : Chomping} {place : Place} {last empty : List Char} {blank : Bool}

/-- A line break in a block is kept back until what follows tells what becomes of it. -/
theorem blockLines_break {c : Char} (ends : isBreak c) (state : BlockPlace)
    (rest : List Glyph) :
    ∃ next : BlockPlace, next.isFresh ∧ next.pending = state.pending ++ [c] ∧
      blockLines false chomping 2 state (place.glyph c :: rest) =
        blockLines false chomping 2 next rest := by
  obtain ⟨space, tab⟩ := ne_blank_of_isBreak ends
  cases state with
  | line blank =>
      refine ⟨.lineStart [c] blank [], rfl, rfl, ?_⟩
      simp [blockLines, ends]
  | lineStart last blank empty =>
      refine ⟨.lineStart last blank (empty ++ [c]), rfl, by simp [BlockPlace.pending], ?_⟩
      simp [blockLines, ends, space, tab]

/-- The first character of a line, behind the indentation. -/
theorem blockLines_indented {c : Char} (inLine : isBreak c = false) (column : place.column = 2)
    (rest : List Glyph) :
    blockLines false chomping 2 (.lineStart last blank empty) (place.glyph c :: rest) =
      andThen (last ++ empty ++ [c]) (blockLines false chomping 2 (.line (isBlank c)) rest) := by
  simp [blockLines, inLine, column, between]

/-- The indentation of a line is no part of its text. -/
theorem blockLines_indentation (column : place.column = 0) (rest : List Char) :
    blockLines false chomping 2 (.lineStart last blank empty)
        (place.glyphs (indentation ++ rest)) =
      blockLines false chomping 2 (.lineStart last blank empty)
        ((place.after indentation).glyphs rest) := by
  have inLine : isBreak ' ' = false := rfl
  have next : (place.next ' ').column = 1 := by simp [place.next_of_not_break inLine, column]
  simp [indentation, blockLines, column, next]

/-- The lines of a text that does not end in a line break. -/
theorem blockLines_literalBody {body : List Char} (rest : List Char)
    (ended : body.getLast?.any isBreak = false) (state : BlockPlace)
    (fresh : state.isFresh → place.column = 0 ∧ body ≠ []) :
    ∃ blank, blockLines false chomping 2 state
        (place.glyphs (literalBody state.isFresh body ++ rest)) =
      andThen (state.pending ++ body) (blockLines false chomping 2 (.line blank)
        ((place.after (literalBody state.isFresh body)).glyphs rest)) := by
  induction body generalizing place state with
  | nil =>
      cases state with
      | line blank => exact ⟨blank, (andThen_nil _).symm⟩
      | lineStart last blank empty => exact ((fresh rfl).2 rfl).elim
  | cons c body ih =>
      have endedLater : body.getLast?.any isBreak = false := by
        cases body with
        | nil => rfl
        | cons d body => exact ended
      by_cases ends : isBreak c
      · have more : body ≠ [] := by
          rintro rfl
          simp [ends] at ended
        obtain ⟨next, starts, behind, read⟩ := @blockLines_break chomping place c ends state
          ((place.next c).glyphs (literalBody true body ++ rest))
        obtain ⟨blank, later⟩ := ih endedLater next fun _ =>
          ⟨place.column_next_of_break ends, more⟩
        refine ⟨blank, ?_⟩
        rw [starts, behind] at later
        rw [literalBody, if_pos ends, List.cons_append, Place.glyphs_cons, read, later]
        simp
      · have inLine : isBreak c = false := by simpa using ends
        cases state with
        | line blank =>
            obtain ⟨behind, later⟩ := @ih (place.next c) endedLater (.line blank)
              fun starts => by cases starts
            refine ⟨behind, ?_⟩
            simp only [BlockPlace.isFresh, BlockPlace.pending, List.nil_append] at later ⊢
            rw [literalBody, if_neg ends, if_neg (by decide), List.nil_append, List.cons_append,
              Place.glyphs_cons, blockLines]
            simp [inLine, later, andThen_andThen]
        | lineStart last blank empty =>
            have column : place.column = 0 := (fresh rfl).1
            obtain ⟨behind, later⟩ := @ih ((place.after indentation).next c) endedLater
              (.line (isBlank c)) fun starts => by cases starts
            refine ⟨behind, ?_⟩
            simp only [BlockPlace.isFresh, BlockPlace.pending, List.nil_append] at later ⊢
            rw [literalBody, if_neg ends, if_pos rfl, List.append_assoc,
              blockLines_indentation column, List.cons_append, Place.glyphs_cons,
              blockLines_indented inLine (column_after_indentation column), later, andThen_andThen]
            simp

/-- The line breaks behind the last line of a block. -/
theorem blockLines_breaks {breaks tail : List Char} (ends : ∀ c ∈ breaks, isBreak c)
    (column : place.column = 0) (starts : startsLine tail) :
    blockLines false chomping 2 (.lineStart last blank empty) (place.glyphs (breaks ++ tail)) =
      some (chomp chomping last (empty ++ breaks), (place.after breaks).glyphs tail) := by
  induction breaks generalizing place empty with
  | nil =>
      cases tail with
      | nil => simp [blockLines]
      | cons c tail =>
          have space : c ≠ ' ' := ne_of_startsLine starts (by decide)
          have tab : c ≠ '\t' := ne_of_startsLine starts (by decide)
          simp [blockLines, column, space, tab, isBreak_of_startsLine starts]
  | cons c breaks ih =>
      obtain ⟨first, later⟩ := List.forall_mem_cons.mp ends
      obtain ⟨space, tab⟩ := ne_blank_of_isBreak first
      rw [List.cons_append, Place.glyphs_cons, blockLines]
      simp [space, tab, first, ih later (place.column_next_of_break first)]

end Lines

/-- Line breaks in front of a block belong to its text. -/
theorem blockStart_breaks {indent widest reached : Nat} {place : Place}
    {lead rest breaks : List Char} {after : List Glyph} (ends : ∀ c ∈ lead, isBreak c)
    (column : place.column = 0)
    (read : blockStart indent widest ((place.after lead).glyphs rest) =
      some (breaks, reached, after)) :
    blockStart indent widest (place.glyphs (lead ++ rest)) =
      some (lead ++ breaks, reached, after) := by
  induction lead generalizing place with
  | nil => exact read
  | cons c lead ih =>
      obtain ⟨first, later⟩ := List.forall_mem_cons.mp ends
      obtain ⟨space, tab⟩ := ne_blank_of_isBreak first
      rw [List.cons_append, Place.glyphs_cons, blockStart]
      simp [space, tab, first, column, ih later (place.column_next_of_break first) read]

/-- The indentation is found in front of the first line that is not empty, or it is known. -/
theorem blockStart_indentation {indent : Nat} {place : Place} {c : Char}
    (inLine : isBreak c = false) (tab : c ≠ '\t') (column : place.column = 0)
    (known : indent = 2 ∨ indent = 0 ∧ c ≠ ' ') (rest : List Char) :
    blockStart indent 0 (place.glyphs (indentation ++ c :: rest)) =
      some ([], 2, (place.after indentation).glyphs (c :: rest)) := by
  have inside : isBreak ' ' = false := rfl
  have next : (place.next ' ').column = 1 := by simp [place.next_of_not_break inside, column]
  have behind : ((place.next ' ').next ' ').column = 2 := column_after_indentation column
  rcases known with rfl | ⟨rfl, space⟩
  · simp [indentation, blockStart, column, next, behind, inLine]
  · simp [indentation, blockStart, column, next, behind, inLine, tab, space]

/-- In front of a line of the document a block has no text. -/
theorem blockStart_lineStart {indent : Nat} {place : Place} {tail : List Char}
    (column : place.column = 0) (starts : startsLine tail) :
    blockStart indent 0 (place.glyphs tail) = some ([], 0, place.glyphs tail) := by
  cases tail with
  | nil => rfl
  | cons c tail =>
      have space : c ≠ ' ' := ne_of_startsLine starts (by decide)
      have tab : c ≠ '\t' := ne_of_startsLine starts (by decide)
      simp [blockStart, space, tab, isBreak_of_startsLine starts, column]

/-- The line breaks behind the last line of a block, of which there is at least one. -/
def lineEnds (breaks : List Char) : List Char := if breaks = [] then ['\n'] else breaks

theorem isBreak_of_mem_lineEnds {breaks : List Char} (ends : ∀ c ∈ breaks, isBreak c) :
    ∀ c ∈ lineEnds breaks, isBreak c := by
  unfold lineEnds
  split
  · exact List.forall_mem_singleton.mpr rfl
  · exact ends

/-- There is at least one line break behind a block. -/
theorem lineEnds_ne_nil (breaks : List Char) : lineEnds breaks ≠ [] := by
  unfold lineEnds
  split
  · simp
  · assumption

namespace Chomping

/-- The sign of a chomping. -/
def sign : Chomping → List Char
  | .strip => ['-']
  | .clip => []
  | .keep => ['+']

/-- The chomping that keeps the line breaks behind a text. As soon as there is a line, at least one
is read, and only that one without a sign. -/
def keeping (body breaks : List Char) : Chomping :=
  if breaks = [] then .strip else if body ≠ [] ∧ breaks.length = 1 then .clip else .keep

/-- The chomping that was chosen gives back the line breaks behind the text. -/
theorem chomp_keeping {body breaks : List Char} (lines : body ≠ []) {c : Char} {later : List Char}
    (behind : lineEnds breaks = c :: later) : chomp (keeping body breaks) [c] later = breaks := by
  unfold lineEnds at behind
  unfold keeping
  split at behind
  · rename_i unbroken
    simp [unbroken, chomp]
  · rename_i broken
    subst behind
    by_cases single : later = []
    · simp [single, lines, chomp]
    · simp [single, chomp]

end Chomping

/-- The indicator of the indentation, if it cannot be told from the first line. -/
def indentHint (text : List Char) : List Char :=
  if text.head?.any (fun c => c == ' ' || isBreak c) then ['2'] else []

/-- The hints of a block depend on its start for the indentation and on its final breaks for the
chomping. -/
theorem blockHints_append {body breaks : List Char} (nonempty : body ++ breaks ≠ [])
    (ended : body.getLast?.any isBreak = false) (ends : ∀ c ∈ breaks, isBreak c) :
    blockHints (body ++ breaks) =
      indentHint (body ++ breaks) ++ (Chomping.keeping body breaks).sign := by
  unfold blockHints
  congr 1
  rcases List.eq_nil_or_concat' breaks with rfl | ⟨earlier, last, rfl⟩
  · rcases List.eq_nil_or_concat' body with rfl | ⟨front, final, rfl⟩
    · exact (nonempty rfl).elim
    · have inLine : isBreak final = false := by simpa using ended
      simp [Chomping.keeping, Chomping.sign, inLine]
  · have final : isBreak last = true := ends last (by simp)
    rcases List.eq_nil_or_concat' earlier with rfl | ⟨front, second, rfl⟩
    · rcases List.eq_nil_or_concat' body with rfl | ⟨front, second, rfl⟩
      · simp [Chomping.keeping, Chomping.sign, final]
      · have inLine : isBreak second = false := by simpa using ended
        simp [Chomping.keeping, Chomping.sign, final, inLine]
    · have before : isBreak second = true := ends second (by simp)
      simp [Chomping.keeping, Chomping.sign, final, before]

/-- The header of a block is read back as the hints it was written with. -/
theorem blockHeader_signs (text : List Char) (chomping : Chomping) (place : Place)
    (rest : List Char) :
    blockHeader (place.glyphs (indentHint text ++ chomping.sign ++ '\n' :: rest)) =
      some (⟨chomping, if indentHint text = [] then 0 else 2⟩,
        (place.after (indentHint text ++ chomping.sign)).glyphs ('\n' :: rest)) := by
  unfold indentHint
  split
  · cases chomping <;> rfl
  · cases chomping <;> rfl

/-- The lines of a literal block, the last of which is ended. -/
def literalLines (text : List Char) : List Char :=
  if text.getLast?.any isBreak then literalBody true text else literalBody true text ++ ['\n']

/-- Line breaks behind the lines of a block are not indented. -/
theorem literalBody_append_breaks {body breaks : List Char} (ends : ∀ c ∈ breaks, isBreak c)
    (fresh : Bool) : literalBody fresh (body ++ breaks) = literalBody fresh body ++ breaks := by
  induction body generalizing fresh with
  | nil =>
      induction breaks generalizing fresh with
      | nil => rfl
      | cons c breaks ih =>
          obtain ⟨first, later⟩ := List.forall_mem_cons.mp ends
          simpa [literalBody, first] using ih later true
  | cons c body ih =>
      rw [List.cons_append, literalBody, literalBody, ih, ih]
      split <;> simp

/-- The first line of a block is indented, the line breaks in front of it are not. -/
theorem literalBody_leading {lead : List Char} {c : Char} {more : List Char}
    (ends : ∀ c ∈ lead, isBreak c) (inLine : isBreak c = false) :
    literalBody true (lead ++ c :: more) =
      lead ++ (indentation ++ c :: literalBody false more) := by
  induction lead with
  | nil => simp [literalBody, inLine]
  | cons d lead ih =>
      obtain ⟨first, later⟩ := List.forall_mem_cons.mp ends
      simp [literalBody, first, ih later]

/-- A block with lines has a first one, behind any number of line breaks. -/
theorem exists_first_line {body : List Char} (lines : body ≠ [])
    (ended : body.getLast?.any isBreak = false) :
    ∃ lead c more, body = lead ++ c :: more ∧ (∀ d ∈ lead, isBreak d) ∧ isBreak c = false ∧
      more.getLast?.any isBreak = false := by
  cases rest : body.dropWhile isBreak with
  | nil =>
      have all := List.dropWhile_eq_nil_iff.mp rest
      have last : body.getLast? = some (body.getLast lines) := List.getLast?_eq_some_getLast lines
      simp [last, all _ (List.getLast_mem lines)] at ended
  | cons c more =>
      have split : body = body.takeWhile isBreak ++ c :: more := by
        rw [← rest, List.takeWhile_append_dropWhile]
      have inLine : isBreak c = false := by
        have := List.head?_dropWhile_not isBreak body
        simpa [rest] using this
      refine ⟨_, c, more, split, fun d member => List.mem_takeWhile_imp member, inLine, ?_⟩
      cases more with
      | nil => rfl
      | cons d more =>
          rw [split, List.getLast?_append, List.getLast?_cons_cons] at ended
          rw [List.getLast?_eq_some_getLast (List.cons_ne_nil d more)] at ended ⊢
          exact ended

/-- The header of a block ends with its line. -/
theorem restOfLine_lineFeed (place : Place) (rest : List Char) :
    restOfLine (place.glyphs ('\n' :: rest)) = some ((place.next '\n').glyphs rest) := by
  have blank : isBlank '\n' = false := rfl
  have ends : isBreak '\n' = true := rfl
  simp [restOfLine, blank, ends, atChar]

/-- Line breaks lead from the start of a line to the start of a line. -/
theorem column_after_breaks {place : Place} {breaks : List Char} (column : place.column = 0)
    (ends : ∀ c ∈ breaks, isBreak c) : (place.after breaks).column = 0 := by
  rcases List.eq_nil_or_concat' breaks with rfl | ⟨front, final, rfl⟩
  · exact column
  · rw [Place.after_append]
    exact Place.column_next_of_break _ (ends final (by simp))

/-- From the middle of a line to the end of a block. -/
theorem blockLines_toEnd {chomping : Chomping} {place : Place} {more later tail : List Char}
    {c : Char} (ended : more.getLast?.any isBreak = false) (ends : ∀ d ∈ c :: later, isBreak d)
    (starts : startsLine tail) (blank : Bool) :
    blockLines false chomping 2 (.line blank)
        (place.glyphs (literalBody false more ++ (c :: later ++ tail))) =
      some (more ++ chomp chomping [c] later,
        (place.after (literalBody false more ++ c :: later)).glyphs tail) := by
  obtain ⟨first, others⟩ := List.forall_mem_cons.mp ends
  obtain ⟨behind, read⟩ := @blockLines_literalBody chomping place more (c :: later ++ tail) ended
    (.line blank) fun fresh => by cases fresh
  simp only [BlockPlace.isFresh, BlockPlace.pending, List.nil_append] at read
  rw [read, List.cons_append, Place.glyphs_cons, blockLines]
  simp [first, blockLines_breaks others (Place.column_next_of_break _ first) starts, andThen]

/-- A block with at least one line that is not empty. -/
theorem blockLines_printed {body breaks tail : List Char} {place : Place} {given : Nat}
    (lines : body ≠ []) (ended : body.getLast?.any isBreak = false)
    (ends : ∀ c ∈ breaks, isBreak c) (tabless : '\t' ∉ body) (column : place.column = 0)
    (known : given = 2 ∨ given = 0 ∧ body.head?.any (fun c => c == ' ' || isBreak c) = false)
    (starts : startsLine tail) :
    ∃ lead after,
      blockStart given 0 (place.glyphs (literalBody true body ++ (lineEnds breaks ++ tail))) =
        some (lead, 2, after) ∧
      blockLines false (.keeping body breaks) 2 (.lineStart [] false lead) after =
        some (body ++ breaks,
          (place.after (literalBody true body ++ lineEnds breaks)).glyphs tail) := by
  obtain ⟨lead, c, more, rfl, leading, inLine, endedMore⟩ := exists_first_line lines ended
  obtain ⟨d, later, behind⟩ := List.exists_cons_of_ne_nil (lineEnds_ne_nil breaks)
  have tab : c ≠ '\t' := by
    rintro rfl
    simp at tabless
  have told : given = 2 ∨ given = 0 ∧ c ≠ ' ' := by
    rcases known with known | ⟨unknown, clear⟩
    · exact .inl known
    · refine .inr ⟨unknown, ?_⟩
      rintro rfl
      cases lead with
      | nil => simp at clear
      | cons e lead => simp [leading e (by simp)] at clear
  have start : (place.after lead).column = 0 := column_after_breaks column leading
  refine ⟨lead, ((place.after lead).after indentation).glyphs
    (c :: (literalBody false more ++ (lineEnds breaks ++ tail))), ?_, ?_⟩
  · rw [literalBody_leading leading inLine, List.append_assoc, List.append_assoc]
    simpa using blockStart_breaks leading column (blockStart_indentation inLine tab start told _)
  · have ended := isBreak_of_mem_lineEnds ends
    rw [behind] at ended
    rw [Place.glyphs_cons, blockLines_indented inLine (column_after_indentation start), behind,
      blockLines_toEnd endedMore ended starts, Chomping.chomp_keeping lines behind,
      literalBody_leading leading inLine]
    simp [andThen]

/-- The lines of a block are its indented body and the breaks behind it. -/
theorem literalLines_append {body breaks : List Char} (nonempty : body ++ breaks ≠ [])
    (ended : body.getLast?.any isBreak = false) (ends : ∀ c ∈ breaks, isBreak c) :
    literalLines (body ++ breaks) = literalBody true body ++ lineEnds breaks := by
  unfold literalLines lineEnds
  rw [literalBody_append_breaks ends]
  rcases List.eq_nil_or_concat' breaks with rfl | ⟨earlier, last, rfl⟩
  · simp [ended]
  · simp [ends last (by simp)]

/-- Every text is a body that ends within a line, with line breaks behind it. -/
theorem exists_final_breaks (text : List Char) :
    ∃ body breaks, text = body ++ breaks ∧ body.getLast?.any isBreak = false ∧
      ∀ c ∈ breaks, isBreak c := by
  refine ⟨text.rdropWhile isBreak, text.rtakeWhile isBreak,
    List.rdropWhile_append_rtakeWhile.symm, ?_, fun c member => List.mem_rtakeWhile_imp member⟩
  by_cases empty : text.rdropWhile isBreak = []
  · rw [empty]
    rfl
  · rw [List.getLast?_eq_some_getLast empty]
    simpa using List.rdropWhile_last_not isBreak text empty

/-- The lines of a block end at the start of a line. -/
theorem column_after_literalLines {text : List Char} (nonempty : text ≠ []) (place : Place) :
    (place.after (literalLines text)).column = 0 := by
  obtain ⟨body, breaks, rfl, ended, ends⟩ := exists_final_breaks text
  rw [literalLines_append nonempty ended ends, Place.after_append]
  obtain ⟨front, last, split⟩ :=
    (List.eq_nil_or_concat' (lineEnds breaks)).resolve_left (lineEnds_ne_nil breaks)
  have final : isBreak last := isBreak_of_mem_lineEnds ends last (by simp [split])
  rw [split, Place.after_append]
  exact Place.column_next_of_break _ final

/-- A block of empty lines. -/
theorem blockLines_empty {breaks tail : List Char} {place : Place} (ends : ∀ c ∈ breaks, isBreak c)
    (column : place.column = 0) (starts : startsLine tail) :
    blockStart 2 0 (place.glyphs (breaks ++ tail)) =
        some (breaks, 0, (place.after breaks).glyphs tail) ∧
      blockLines false .keep 2 (.lineStart [] false breaks) ((place.after breaks).glyphs tail) =
        some (breaks, (place.after breaks).glyphs tail) := by
  have behind : (place.after breaks).column = 0 := column_after_breaks column ends
  constructor
  · simpa using blockStart_breaks ends column (blockStart_lineStart behind starts)
  · simpa [chomp] using
      @blockLines_breaks .keep _ [] breaks false [] tail (by simp) behind starts

/-- The text of a literal block is read back. -/
theorem blockScalar_printed {text tail : List Char} (nonempty : text ≠ []) (tabless : '\t' ∉ text)
    (place : Place) (starts : startsLine tail) :
    blockScalar false 1 (place.glyphs (blockHints text ++ '\n' :: (literalLines text ++ tail))) =
      .some (text, (place.after (blockHints text ++ '\n' :: literalLines text)).glyphs tail) := by
  obtain ⟨body, breaks, rfl, ended, ends⟩ := exists_final_breaks text
  rw [blockHints_append nonempty ended ends, literalLines_append nonempty ended ends,
    List.append_assoc (literalBody true body)]
  generalize before : place.after
    (indentHint (body ++ breaks) ++ (Chomping.keeping body breaks).sign) = behind
  have column : (behind.next '\n').column = 0 := Place.column_next_of_break _ rfl
  have header := blockHeader_signs (body ++ breaks) (.keeping body breaks) place
    (literalBody true body ++ (lineEnds breaks ++ tail))
  rw [before] at header
  rw [Place.after_append, before, Place.after_cons, blockScalar, header]
  simp only [bind, Option.bind, restOfLine_lineFeed]
  by_cases lines : body = []
  · subst lines
    rw [List.nil_append] at nonempty
    obtain ⟨start, read⟩ := blockLines_empty ends column starts
    have hinted : indentHint breaks ≠ [] := by
      obtain ⟨first, later, rfl⟩ := List.exists_cons_of_ne_nil nonempty
      simp [indentHint, ends first (by simp)]
    have keeps : Chomping.keeping [] breaks = .keep := by simp [Chomping.keeping, nonempty]
    have ends : lineEnds breaks = breaks := if_neg nonempty
    simp [hinted, keeps, ends, literalBody, start, read]
  · by_cases hinted : indentHint (body ++ breaks) = []
    · have known : body.head?.any (fun c => c == ' ' || isBreak c) = false := by
        cases body with
        | nil => rfl
        | cons c body => simpa [indentHint] using hinted
      obtain ⟨lead, after, start, read⟩ := blockLines_printed lines ended ends
        (fun member => tabless (List.mem_append_left _ member)) column (.inr ⟨rfl, known⟩) starts
      simp [hinted, start, read]
    · obtain ⟨lead, after, start, read⟩ := blockLines_printed lines ended ends
        (fun member => tabless (List.mem_append_left _ member)) column (.inl rfl) starts
      simp [hinted, start, read]

end MarkerReport.Yaml
