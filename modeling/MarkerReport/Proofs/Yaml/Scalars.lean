import MarkerReport.Proofs.Yaml.Glyphs

/-! # Scalars that are read back

Each style has its reader, and the reader gives back the text that was printed in that style. What
follows the scalar is arbitrary, apart from what the reader has to see of it to stop: the end of the
line, and for a plain scalar that the next line starts at the margin.
-/

namespace MarkerReport.Yaml

/-- The marks of a document stand at the start of a line only. -/
theorem atDocumentMark_of_column_pos {place : Place} (inLine : 0 < place.column) (c : Char)
    (rest : List Glyph) : atDocumentMark (place.glyph c :: rest) = false := by
  have column : (place.column == 0) = false := by simpa using Nat.pos_iff_ne_zero.mp inLine
  unfold atDocumentMark atMark
  rcases rest with _ | ⟨second, _ | ⟨third, rest⟩⟩
  · rfl
  · rfl
  · simp [column]

/-- Within a line no text starts with a mark of a document. -/
theorem atDocumentMark_glyphs {place : Place} (inLine : 0 < place.column) (text : List Char) :
    atDocumentMark (place.glyphs text) = false := by
  cases text with
  | nil => rfl
  | cons c rest => exact atDocumentMark_of_column_pos inLine c _

/-- What is put in front in two goes can be put in front in one. -/
theorem andThen_andThen (first second : List Char) (read : Option (List Char × List Glyph)) :
    andThen first (andThen second read) = andThen (first ++ second) read := by
  cases read with
  | none => rfl
  | some found => simp [andThen]

namespace Gap

variable {gap : Gap}

/-- A blank does not break a gap. -/
theorem isBroken_blank (closed : gap.isBroken = false) (c : Char) :
    (gap.blank c).isBroken = false := by
  cases gap with
  | none => rfl
  | blanks text => rfl
  | breaks first later => cases closed

/-- A blank in a gap within a line is part of the text. -/
theorem text_blank (closed : gap.isBroken = false) (c : Char) :
    (gap.blank c).text = gap.text ++ [c] := by
  cases gap with
  | none => rfl
  | blanks text => rfl
  | breaks first later => cases closed

end Gap

/-- Where the text goes on without a gap, so do its glyphs. -/
theorem atGap_glyphs {place : Place} {rest tail : List Char}
    (clear : rest.head?.all isGapChar = false) : atGap (place.glyphs (rest ++ tail)) = false := by
  cases rest with
  | nil => simp at clear
  | cons c rest =>
      simp only [List.head?_cons, Option.all_some, isGapChar, Bool.or_eq_false_iff] at clear
      simp [atGap, clear]

/-- What is read behind the first character of a plain scalar. A gap stays open only behind a blank,
so a number sign in the text is never taken for the start of a comment. -/
theorem plain_glyphs {margin : Nat} {place : Place} {gap : Gap} {previous : Char}
    {text tail : List Char} {broken : Bool} {after : List Glyph}
    (unmarked : atDocumentMark (place.glyphs (text ++ tail)) = false)
    (closed : gap.isBroken = false) (behindBlank : gap ≠ .none → previous = ' ')
    (printable : ∀ c ∈ text, isPrintable c ∧ isBreak c = false)
    (clear : holdsIndicator previous text = false) (trimmed : text.getLast? ≠ some ' ')
    (whole : text = [] → gap = .none)
    (stops : plain false margin .none ((place.after text).glyphs tail) = some ([], broken, after)) :
    plain false margin gap (place.glyphs (text ++ tail)) =
      some (gap.text ++ text, broken, after) := by
  induction text generalizing place gap previous with
  | nil =>
      obtain rfl := whole rfl
      exact stops
  | cons c rest ih =>
      obtain ⟨⟨first, notBreak⟩, later⟩ := List.forall_mem_cons.mp printable
      simp only [holdsIndicator, Bool.or_eq_false_iff] at clear
      obtain ⟨⟨notValue, notComment⟩, clear⟩ := clear
      have inside : atDocumentMark ((place.next c).glyphs (rest ++ tail)) = false :=
        atDocumentMark_glyphs (place.column_next_pos notBreak) _
      have trimmedRest : rest.getLast? ≠ some ' ' := by
        intro last
        apply trimmed
        rw [List.getLast?_cons, last]
        rfl
      rw [List.cons_append, Place.glyphs_cons] at unmarked ⊢
      rw [plain]
      by_cases blank : c = ' '
      · subst blank
        have more : rest ≠ [] := by
          rintro rfl
          exact trimmed rfl
        have read := @ih (place.next ' ') (gap.blank ' ') ' ' inside (Gap.isBroken_blank closed _)
          (fun _ => rfl) later clear trimmedRest (fun empty => (more empty).elim) stops
        have blank : isBlank ' ' = true := rfl
        simp [blank, closed, read, Gap.text_blank closed]
      · have notBlank : isBlank c = false := isBlank_of_isPrintable first blank
        have comment : (c == '#' && !gap.isNone) = false := by
          by_cases unopened : gap = .none
          · simp [unopened, Gap.isNone]
          · rw [behindBlank unopened] at notComment
            have : isGapChar ' ' = true := rfl
            simp_all
        have value : (c == ':' && atGap ((place.next c).glyphs (rest ++ tail))) = false := by
          by_cases colon : c = ':'
          · have : rest.head?.all isGapChar = false := by simpa [colon] using notValue
            simp [atGap_glyphs this]
          · simp [colon]
        have read := @ih (place.next c) .none c inside rfl (fun gapped => (gapped rfl).elim) later
          clear trimmedRest (fun _ => rfl) stops
        simp [notBlank, notBreak, closed, unmarked, comment, value, read, Gap.text]

/-- What makes a text fit for a plain scalar. -/
structure PlainText (text : List Char) : Prop where
  printable : ∀ c ∈ text, isPrintable c
  inLine : ∀ c ∈ text, isBreak c = false
  first : text.head? ≠ some ' '
  last : text.getLast? ≠ some ' '
  start : startsIndicator text = false
  clear : ∀ c rest, text = c :: rest → holdsIndicator c rest = false

/-- A text that is written plain has the shape that the reader of plain scalars asks for. -/
theorem plainText_of_allowsPlain {text : List Char} (allowed : allowsPlain text) :
    PlainText text := by
  simp only [allowsPlain, isTrimmed, Bool.and_eq_true, Bool.not_eq_true', List.any_eq_false]
    at allowed
  obtain ⟨⟨⟨⟨⟨first, last⟩, printable⟩, inLine⟩, start⟩, clear⟩ := allowed
  refine ⟨isPrintable_of_needsEscape printable, ?_, ?_, ?_, start, ?_⟩
  · intro c member
    simpa using inLine c member
  · intro blank
    simp [blank] at first
  · intro blank
    simp [blank] at last
  · rintro c rest rfl
    simpa using clear

namespace PlainText

variable {c : Char} {rest text : List Char}

theorem isBlank_first (fit : PlainText (c :: rest)) : isBlank c = false := by
  apply isBlank_of_isPrintable (fit.printable c (by simp))
  rintro rfl
  exact fit.first rfl

theorem first_ne_comment (fit : PlainText (c :: rest)) : c ≠ '#' := by
  rintro rfl
  simpa [startsIndicator] using fit.start

theorem holdsIndicator_whole (fit : PlainText (c :: rest)) :
    holdsIndicator c (c :: rest) = false := by
  have start := fit.start
  simp only [startsIndicator, Bool.or_eq_false_iff] at start
  have notValue : (c == ':' && rest.head?.all isGapChar) = false := by
    by_cases colon : c = ':'
    · subst colon
      exact start.1.1.2
    · simp [colon]
  simpa [holdsIndicator, notValue, fit.first_ne_comment] using fit.clear c rest rfl

/-- The whole text is read, up to where a plain scalar stops. -/
theorem plain {margin : Nat} {place : Place} {tail : List Char} {broken : Bool}
    {after : List Glyph} (fit : PlainText text)
    (unmarked : atDocumentMark (place.glyphs (text ++ tail)) = false)
    (stops : Yaml.plain false margin .none ((place.after text).glyphs tail) =
      some ([], broken, after)) :
    Yaml.plain false margin .none (place.glyphs (text ++ tail)) = some (text, broken, after) := by
  have ordinary : ∀ c ∈ text, isPrintable c ∧ isBreak c = false := fun c member =>
    ⟨fit.printable c member, fit.inLine c member⟩
  cases text with
  | nil => exact stops
  | cons c rest =>
      exact plain_glyphs unmarked rfl (fun gapped => (gapped rfl).elim) ordinary
        fit.holdsIndicator_whole fit.last (fun _ => rfl) stops

end PlainText

/-- Whether a line of a document can start like a text: with the sign of an entry or with a letter
of a key, if there is anything at all. -/
def startsLine (text : List Char) : Bool := text.head?.all fun c => c == '-' || c.isLower

section LineStart

variable {c : Char} {rest : List Char}

/-- A line of a document starts with a dash or a small letter, so with no other sign. -/
theorem ne_of_startsLine {other : Char} (starts : startsLine (c :: rest))
    (unfit : (other == '-' || other.isLower) = false) : c ≠ other := by
  rintro rfl
  simp only [startsLine, List.head?_cons, Option.all_some, unfit] at starts
  cases starts

/-- A line of a document starts with no break. -/
theorem isBreak_of_startsLine (starts : startsLine (c :: rest)) : isBreak c = false := by
  have feed : c ≠ '\n' := ne_of_startsLine starts (by decide)
  have line : c ≠ '\u2028' := ne_of_startsLine starts (by decide)
  have paragraph : c ≠ '\u2029' := ne_of_startsLine starts (by decide)
  simp [isBreak, feed, line, paragraph]

/-- A line of a document starts with no blank. -/
theorem isBlank_of_startsLine (starts : startsLine (c :: rest)) : isBlank c = false := by
  have space : c ≠ ' ' := ne_of_startsLine starts (by decide)
  have tab : c ≠ '\t' := ne_of_startsLine starts (by decide)
  simp [isBlank, space, tab]

end LineStart

/-- A plain scalar does not go on in a line that starts before its margin. -/
theorem plain_lineFeed {margin : Nat} (indented : 0 < margin) (place : Place) {tail : List Char}
    (starts : startsLine tail) :
    plain false margin .none (place.glyphs ('\n' :: tail)) =
      some ([], true, (place.next '\n').glyphs tail) := by
  have blank : isBlank '\n' = false := rfl
  have ends : isBreak '\n' = true := rfl
  have column : (place.next '\n').column = 0 := place.column_next_of_break ends
  rw [Place.glyphs_cons, plain]
  simp only [Place.glyph_isBlank, blank, Place.glyph_isBreak, ends, if_true, Place.glyph_char,
    Bool.false_eq_true, if_false, Gap.lineBreak]
  cases tail with
  | nil => rfl
  | cons c rest =>
      rw [Place.glyphs_cons, plain]
      simp [isBlank_of_startsLine starts, isBreak_of_startsLine starts, Gap.isBroken, column,
        indented]

/-- A colon in front of a gap ends a plain scalar. -/
theorem plain_colon {margin : Nat} {place : Place} {gap : Char} (inLine : 0 < place.column)
    (separates : isBlank gap || isBreak gap) (rest : List Char) :
    plain false margin .none (place.glyphs (':' :: gap :: rest)) =
      some ([], false, place.glyphs (':' :: gap :: rest)) := by
  have blank : isBlank ':' = false := rfl
  have ends : isBreak ':' = false := rfl
  have gapped : atGap ((place.next ':').glyphs (gap :: rest)) = true := separates
  rw [Place.glyphs_cons, plain]
  simp only [Place.glyph_isBlank, blank, Place.glyph_isBreak, ends, Gap.isBroken,
    atDocumentMark_of_column_pos inLine, gapped]
  simp

section SingleQuoted

variable {place : Place} {gap : Gap} {c : Char} {rest : List Glyph}

/-- In single quotes a blank widens the gap. -/
theorem singleQuoted_blank (blank : isBlank c) :
    singleQuoted gap (place.glyph c :: rest) = singleQuoted (gap.blank c) rest := by
  rw [singleQuoted.eq_def]
  simp [blank]

/-- In single quotes a line break goes into the gap. -/
theorem singleQuoted_break (blank : isBlank c = false) (ends : isBreak c) :
    singleQuoted gap (place.glyph c :: rest) = singleQuoted (gap.lineBreak c) rest := by
  rw [singleQuoted.eq_def]
  simp [blank, ends]

/-- In single quotes any other character ends the gap and is kept behind it. -/
theorem singleQuoted_char (inLine : 0 < place.column) (blank : isBlank c = false)
    (ends : isBreak c = false) (quote : c ≠ '\'') :
    singleQuoted gap (place.glyph c :: rest) =
      andThen (gap.text ++ [c]) (singleQuoted .none rest) := by
  rw [singleQuoted.eq_def]
  simp [blank, ends, quote, atDocumentMark_of_column_pos inLine]

/-- In single quotes a doubled quote is one quote of the text. -/
theorem singleQuoted_quote (inLine : 0 < place.column) (next : Place) :
    singleQuoted gap (place.glyph '\'' :: next.glyph '\'' :: rest) =
      andThen (gap.text ++ ['\'']) (singleQuoted .none rest) := by
  have blank : isBlank '\'' = false := rfl
  have ends : isBreak '\'' = false := rfl
  rw [singleQuoted.eq_def]
  simp [blank, ends, atDocumentMark_of_column_pos inLine]

/-- A quote that is not doubled ends the text. -/
theorem singleQuoted_close (inLine : 0 < place.column) (next : Place) (other : c ≠ '\'') :
    singleQuoted gap (place.glyph '\'' :: next.glyph c :: rest) =
      some (gap.text, next.glyph c :: rest) := by
  have blank : isBlank '\'' = false := rfl
  have ends : isBreak '\'' = false := rfl
  rw [singleQuoted.eq_def]
  simp [blank, ends, other, atDocumentMark_of_column_pos inLine]

end SingleQuoted

/-- What a gap in single quotes can be in front of a text: blanks only within a line, and breaks
only at the start of one, where the indentation is still to come. -/
def Gap.Precedes (broken : Bool) (column : Nat) (text : List Char) : Gap → Prop
  | .none => broken = false ∧ 0 < column
  | .blanks _ => broken = false ∧ 0 < column ∧ text.head?.any isBreak = false
  | .breaks first _ => broken = true ∧ first ≠ ['\n'] ∧ text.head? ≠ some ' '

/-- The blanks in front of a line, if one starts here. -/
def indentationIf (broken : Bool) : List Char := if broken then indentation else []

/-- The indentation of a line does not count. -/
theorem singleQuoted_indentation {gap : Gap} {broken : Bool} {place : Place} {text : List Char}
    (precedes : gap.Precedes broken place.column text) (rest : List Char) :
    0 < (place.after (indentationIf broken)).column ∧
      singleQuoted gap (place.glyphs (indentationIf broken ++ rest)) =
        singleQuoted gap ((place.after (indentationIf broken)).glyphs rest) := by
  cases gap with
  | none =>
      obtain ⟨rfl, inLine⟩ := precedes
      exact ⟨inLine, rfl⟩
  | blanks blanks =>
      obtain ⟨rfl, inLine, -⟩ := precedes
      exact ⟨inLine, rfl⟩
  | breaks first later =>
      obtain ⟨rfl, -, -⟩ := precedes
      have blank : isBlank ' ' = true := rfl
      refine ⟨(place.next ' ').column_next_pos (c := ' ') rfl, ?_⟩
      change singleQuoted _ (_ :: _ :: _) = _
      rw [singleQuoted_blank blank, singleQuoted_blank blank]
      rfl

/-- A character that is no blank, as it is written in single quotes. -/
def singleChar (c : Char) : List Char := if c = '\'' then ['\'', '\''] else [c]

theorem singleBody_cons (broken : Bool) (c : Char) (rest : List Char) :
    singleBody broken (c :: rest) =
      if isBreak c then c :: singleBody true rest
      else if c = ' ' then c :: singleBody broken rest
      else
        indentationIf broken ++ singleChar c ++ singleBody false rest := rfl

/-- A character written for single quotes is read back as it was. -/
theorem singleQuoted_singleChar {gap : Gap} {place : Place} {c : Char} (inLine : 0 < place.column)
    (blank : isBlank c = false) (ends : isBreak c = false) (rest : List Char) :
    0 < (place.after (singleChar c)).column ∧
      singleQuoted gap (place.glyphs (singleChar c ++ rest)) =
        andThen (gap.text ++ [c])
          (singleQuoted .none ((place.after (singleChar c)).glyphs rest)) := by
  unfold singleChar
  by_cases quote : c = '\''
  · subst quote
    exact ⟨(place.next '\'').column_next_pos (c := '\'') rfl, singleQuoted_quote inLine _⟩
  · rw [if_neg quote]
    exact ⟨place.column_next_pos ends, singleQuoted_char inLine blank ends quote⟩

/-- Where no pair stands in a text, none stands at its start or in its rest. -/
theorem hasPair_cons {left right : Char → Bool} {c : Char} {rest : List Char}
    (pairless : hasPair left right (c :: rest) = false) :
    (left c → rest.head?.any right = false) ∧ hasPair left right rest = false := by
  cases rest with
  | nil => exact ⟨fun _ => rfl, rfl⟩
  | cons d rest =>
      simp only [hasPair, Bool.or_eq_false_iff, Bool.and_eq_false_iff] at pairless
      refine ⟨fun holds => ?_, pairless.2⟩
      rcases pairless.1 with absent | absent
      · rw [absent] at holds
        cases holds
      · exact absent

/-- A text in which blanks and line breaks do not touch is read back from single quotes. -/
theorem singleQuoted_glyphs {gap : Gap} {broken : Bool} {place : Place} {text : List Char}
    (precedes : gap.Precedes broken place.column text)
    (printable : ∀ c ∈ text, isPrintable c ∧ c ≠ '\n')
    (unended : hasPair (· == ' ') isBreak text = false)
    (unindented : hasPair isBreak (· == ' ') text = false) (tail : List Char) :
    singleQuoted gap (place.glyphs (singleBody broken text ++ '\'' :: '\n' :: tail)) =
      some (gap.text ++ text,
        (place.after (singleBody broken text ++ ['\''])).glyphs ('\n' :: tail)) := by
  induction text generalizing gap broken place with
  | nil =>
      obtain ⟨inLine, skips⟩ := singleQuoted_indentation precedes ('\'' :: '\n' :: tail)
      change singleQuoted gap (place.glyphs (indentationIf broken ++ _)) = _
      rw [skips, Place.glyphs_cons, Place.glyphs_cons,
        singleQuoted_close inLine _ (by decide)]
      simp [singleBody, indentationIf]
  | cons c rest ih =>
      obtain ⟨⟨first, notFeed⟩, later⟩ := List.forall_mem_cons.mp printable
      obtain ⟨blankEnds, unendedLater⟩ := hasPair_cons unended
      obtain ⟨breakIndents, unindentedLater⟩ := hasPair_cons unindented
      rw [singleBody_cons]
      by_cases ends : isBreak c
      · have blank : isBlank c = false :=
          isBlank_of_isPrintable first (ne_blank_of_isBreak ends).1
        have unspaced : rest.head? ≠ some ' ' := by
          intro space
          simpa [space] using breakIndents ends
        have opens : (gap.lineBreak c).Precedes true (place.next c).column rest ∧
            (gap.lineBreak c).text = gap.text ++ [c] := by
          cases gap with
          | none =>
              exact ⟨⟨rfl, by simpa using notFeed, unspaced⟩,
                by simp [Gap.lineBreak, Gap.text, notFeed]⟩
          | blanks blanks => simp [Gap.Precedes, ends] at precedes
          | breaks start others =>
              obtain ⟨-, notFeed, -⟩ := precedes
              exact ⟨⟨rfl, notFeed, unspaced⟩, by simp [Gap.lineBreak, Gap.text, notFeed]⟩
        rw [if_pos ends, List.cons_append, Place.glyphs_cons, singleQuoted_break blank ends,
          ih opens.1 later unendedLater unindentedLater, opens.2]
        simp
      · rw [if_neg ends]
        by_cases space : c = ' '
        · subst space
          have stays : (gap.blank ' ').Precedes broken (place.next ' ').column rest ∧
            (gap.blank ' ').text = gap.text ++ [' '] := by
            have inside : 0 < (place.next ' ').column := place.column_next_pos rfl
            cases gap with
            | none => exact ⟨⟨precedes.1, inside, blankEnds rfl⟩, rfl⟩
            | blanks blanks => exact ⟨⟨precedes.1, inside, blankEnds rfl⟩, rfl⟩
            | breaks start others => exact (precedes.2.2 rfl).elim
          rw [if_pos rfl, List.cons_append, Place.glyphs_cons, singleQuoted_blank rfl,
            ih stays.1 later unendedLater unindentedLater, stays.2]
          simp
        · have blank : isBlank c = false := isBlank_of_isPrintable first space
          have inLine : isBreak c = false := by simpa using ends
          obtain ⟨inside, skips⟩ := singleQuoted_indentation precedes
            (singleChar c ++ (singleBody false rest ++ '\'' :: '\n' :: tail))
          obtain ⟨behind, reads⟩ := @singleQuoted_singleChar gap _ _ inside blank inLine
            (singleBody false rest ++ '\'' :: '\n' :: tail)
          have fresh : Gap.none.Precedes false
              ((place.after (indentationIf broken)).after (singleChar c)).column rest :=
            ⟨rfl, behind⟩
          rw [if_neg space, List.append_assoc, List.append_assoc, skips, reads,
            ih fresh later unendedLater unindentedLater]
          simp [andThen, Gap.text]

section DoubleQuoted

variable {place : Place} {gap : Gap} {c : Char} {rest : List Glyph}

/-- In double quotes a blank widens the gap. -/
theorem doubleQuoted_blank (blank : isBlank c) :
    doubleQuoted (.text gap) (place.glyph c :: rest) = doubleQuoted (.text (gap.blank c)) rest := by
  rw [doubleQuoted.eq_def]
  simp [blank]

/-- In double quotes any other character ends the gap and is kept behind it. -/
theorem doubleQuoted_char (inLine : 0 < place.column) (blank : isBlank c = false)
    (ends : isBreak c = false) (quote : c ≠ '"') (backslash : c ≠ '\\') :
    doubleQuoted (.text gap) (place.glyph c :: rest) =
      andThen (gap.text ++ [c]) (doubleQuoted (.text .none) rest) := by
  rw [doubleQuoted.eq_def]
  simp [blank, ends, quote, backslash, atDocumentMark_of_column_pos inLine]

/-- The next quote ends the text. -/
theorem doubleQuoted_close (inLine : 0 < place.column) :
    doubleQuoted (.text gap) (place.glyph '"' :: rest) = some (gap.text, rest) := by
  have blank : isBlank '"' = false := rfl
  have ends : isBreak '"' = false := rfl
  rw [doubleQuoted.eq_def]
  simp [blank, ends, atDocumentMark_of_column_pos inLine]

/-- A backslash with a letter is the character that the letter stands for. -/
theorem doubleQuoted_letter {letter : Char} (inLine : 0 < place.column) (next : Place)
    (ends : isBreak letter = false) (stands : escaped? letter = some c) :
    doubleQuoted (.text gap) (place.glyph '\\' :: next.glyph letter :: rest) =
      andThen (gap.text ++ [c]) (doubleQuoted (.text .none) rest) := by
  have blank : isBlank '\\' = false := rfl
  have inside : isBreak '\\' = false := rfl
  rw [doubleQuoted.eq_def]
  simp [blank, inside, ends, stands, atDocumentMark_of_column_pos inLine]

/-- A backslash with another letter is followed by the digits of a code. -/
theorem doubleQuoted_code {letter : Char} {length : Nat} (inLine : 0 < place.column)
    (next : Place) (ends : isBreak letter = false) (unescaped : escaped? letter = none)
    (digits : codeLength? letter = some length) :
    doubleQuoted (.text gap) (place.glyph '\\' :: next.glyph letter :: rest) =
      andThen gap.text (doubleQuoted (.code (length - 1) 0) rest) := by
  have blank : isBlank '\\' = false := rfl
  have inside : isBreak '\\' = false := rfl
  rw [doubleQuoted.eq_def]
  simp [blank, inside, ends, unescaped, digits, atDocumentMark_of_column_pos inLine]

end DoubleQuoted

/-- A digit of a code is read back as its value. -/
theorem hexValue?_codeDigit : ∀ n < 16, hexValue? (codeDigit n) = some n := by decide

/-- The value of the last `length` digits of a code behind another value. -/
def codeValue (value code : Nat) : (length : Nat) → Nat
  | 0 => value
  | length + 1 => 16 * codeValue value (code / 16) length + code % 16

/-- All digits of a code but the last one. -/
theorem doubleQuoted_codeDigits (length left value code : Nat) (place : Place) (rest : List Char) :
    doubleQuoted (.code (left + length) value) (place.glyphs (codeDigits code length ++ rest)) =
      doubleQuoted (.code left (codeValue value code length))
        ((place.after (codeDigits code length)).glyphs rest) := by
  induction length generalizing left code rest with
  | zero => rfl
  | succ length ih =>
      have digit := hexValue?_codeDigit (code % 16) (Nat.mod_lt _ (by decide))
      have order : left + (length + 1) = left + 1 + length := by omega
      rw [codeDigits, List.append_assoc, order, ih, List.singleton_append, Place.glyphs_cons,
        doubleQuoted]
      simp [digit, codeValue]

/-- The digits of a code stand for the character that has it. -/
theorem doubleQuoted_ofCode {length : Nat} {c : Char}
    (fits : codeValue 0 c.toNat (length + 1) = c.toNat) (place : Place) (rest : List Char) :
    doubleQuoted (.code length 0) (place.glyphs (codeDigits c.toNat (length + 1) ++ rest)) =
      andThen [c] (doubleQuoted (.text .none)
        ((place.after (codeDigits c.toNat (length + 1))).glyphs rest)) := by
  have digit := hexValue?_codeDigit (c.toNat % 16) (Nat.mod_lt _ (by decide))
  have char : charOfCode? c.toNat = some c := by
    have valid : c.toNat.isValidChar := c.valid
    rw [charOfCode?, if_pos valid, Char.ofNat_toNat]
  have read := doubleQuoted_codeDigits length 0 0 (c.toNat / 16) place
    (codeDigit (c.toNat % 16) :: rest)
  rw [Nat.zero_add] at read
  rw [codeValue] at fits
  rw [codeDigits, List.append_assoc, List.singleton_append, read, Place.glyphs_cons, doubleQuoted]
  simp [digit, fits, char]

/-- The letter that a character is escaped with is printable and stands for that character. -/
theorem escaped?_of_escapeLetter? {c letter : Char} (written : escapeLetter? c = some letter) :
    escaped? letter = some c ∧ isPrintable letter ∧ isBreak letter = false := by
  unfold escapeLetter? at written
  split at written
  all_goals cases written
  all_goals exact ⟨rfl, by decide, by decide⟩

/-- The digits of a code are printable and break no line. -/
theorem codeDigits_printable (code length : Nat) :
    ∀ c ∈ codeDigits code length, isPrintable c ∧ isBreak c = false := by
  have digits : ∀ n < 16, isPrintable (codeDigit n) ∧ isBreak (codeDigit n) = false := by decide
  induction length generalizing code with
  | zero => simp [codeDigits]
  | succ length ih =>
      intro c member
      rcases List.mem_append.mp member with earlier | last
      · exact ih _ c earlier
      · rw [List.mem_singleton.mp last]
        exact digits _ (Nat.mod_lt _ (by decide))

/-- A character without a letter is none of those that end a scalar or a line, or that start an
escape. -/
theorem plainChar_of_escapeLetter?_eq_none {c : Char} (plain : escapeLetter? c = none) :
    c ≠ '"' ∧ c ≠ '\\' ∧ isBreak c = false := by
  have quote : c ≠ '"' := by rintro rfl; cases plain
  have backslash : c ≠ '\\' := by rintro rfl; cases plain
  have feed : c ≠ '\n' := by rintro rfl; cases plain
  have line : c ≠ '\u2028' := by rintro rfl; cases plain
  have paragraph : c ≠ '\u2029' := by rintro rfl; cases plain
  exact ⟨quote, backslash, by simp [isBreak, feed, line, paragraph]⟩

/-- An escape is printable and breaks no line. -/
theorem escape_printable (c : Char) : ∀ d ∈ escape c, isPrintable d ∧ isBreak d = false := by
  have backslash : isPrintable '\\' ∧ isBreak '\\' = false := by decide
  unfold escape
  cases letter : escapeLetter? c with
  | some d =>
      obtain ⟨-, printable⟩ := escaped?_of_escapeLetter? letter
      simp [backslash, printable]
  | none =>
      obtain ⟨-, -, inLine⟩ := plainChar_of_escapeLetter?_eq_none letter
      have coded (mark : Char) (ordinary : isPrintable mark ∧ isBreak mark = false)
          (length : Nat) :
          ∀ d ∈ '\\' :: mark :: codeDigits c.toNat length,
            isPrintable d ∧ isBreak d = false := by
        simpa [backslash, ordinary] using codeDigits_printable c.toNat length
      by_cases printable : isPrintable c
      · simp [printable, inLine]
      · dsimp only
        rw [if_neg printable]
        split
        · exact coded 'x' (by decide) 2
        split
        · exact coded 'u' (by decide) 4
        · exact coded 'U' (by decide) 8

/-- An escape stands for the character that it was made from. -/
theorem doubleQuoted_escape {place : Place} {gap : Gap} {c : Char} (inLine : 0 < place.column)
    (space : c ≠ ' ') (rest : List Char) :
    doubleQuoted (.text gap) (place.glyphs (escape c ++ rest)) =
      andThen (gap.text ++ [c])
        (doubleQuoted (.text .none) ((place.after (escape c)).glyphs rest)) := by
  unfold escape
  cases letter : escapeLetter? c with
  | some d =>
      obtain ⟨stands, -, ends⟩ := escaped?_of_escapeLetter? letter
      exact doubleQuoted_letter inLine _ ends stands
  | none =>
      obtain ⟨quote, backslash, ends⟩ := plainChar_of_escapeLetter?_eq_none letter
      have coded (mark : Char) (length : Nat) (fits : codeValue 0 c.toNat (length + 1) = c.toNat)
          (inside : isBreak mark = false) (unescaped : escaped? mark = none)
          (digits : codeLength? mark = some (length + 1)) :
          doubleQuoted (.text gap)
              (place.glyphs ('\\' :: mark :: codeDigits c.toNat (length + 1) ++ rest)) =
            andThen (gap.text ++ [c]) (doubleQuoted (.text .none)
              ((place.after ('\\' :: mark :: codeDigits c.toNat (length + 1))).glyphs rest)) := by
        have read := doubleQuoted_ofCode fits ((place.next '\\').next mark) rest
        rw [List.cons_append, List.cons_append, Place.glyphs_cons, Place.glyphs_cons,
          doubleQuoted_code inLine _ inside unescaped digits, Nat.add_sub_cancel, read,
          andThen_andThen]
        rfl
      by_cases printable : isPrintable c
      · have blank : isBlank c = false := isBlank_of_isPrintable printable space
        simp only [printable, if_true]
        exact doubleQuoted_char inLine blank ends quote backslash
      · have valid : c.toNat < 0xD800 ∨ 0xDFFF < c.toNat ∧ c.toNat < 0x110000 := c.valid
        dsimp only
        rw [if_neg printable]
        split
        · exact coded 'x' 1 (by simp only [codeValue]; omega) rfl rfl rfl
        split
        · exact coded 'u' 3 (by simp only [codeValue]; omega) rfl rfl rfl
        · exact coded 'U' 7 (by simp only [codeValue]; omega) rfl rfl rfl

/-- Any text is read back from double quotes. -/
theorem doubleQuoted_glyphs {place : Place} {gap : Gap} (inLine : 0 < place.column)
    (closed : gap.isBroken = false) (text tail : List Char) :
    doubleQuoted (.text gap) (place.glyphs (text.flatMap escape ++ '"' :: tail)) =
      some (gap.text ++ text, (place.after (text.flatMap escape ++ ['"'])).glyphs tail) := by
  induction text generalizing place gap with
  | nil =>
      rw [List.flatMap_nil, List.nil_append, Place.glyphs_cons, doubleQuoted_close inLine]
      simp
  | cons c rest ih =>
      rw [List.flatMap_cons, List.append_assoc]
      by_cases space : c = ' '
      · subst space
        have blank : isBlank ' ' = true := rfl
        have written : escape ' ' = [' '] := by decide
        rw [written, List.singleton_append, Place.glyphs_cons, doubleQuoted_blank blank,
          ih (place.column_next_pos rfl) (Gap.isBroken_blank closed _), Gap.text_blank closed]
        simp
      · have inside : 0 < (place.after (escape c)).column := by
          rw [place.after_of_not_break fun d member => (escape_printable c d member).2]
          exact Nat.add_pos_left inLine _
        rw [doubleQuoted_escape inLine space, ih inside rfl]
        simp [andThen, Gap.text]

end MarkerReport.Yaml
