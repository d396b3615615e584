import MarkerReport.Proofs.Yaml.Literal
import MarkerReport.Yaml.Scanner

/-! # Tokens of printed documents

The scanner goes through a printed document line by line. At the start of each line it is in a state
of one kind (`MarkerReport.Yaml.Scanner.Ready`): no flow collection is open, the mapping of the
document is open as soon as it has a key, and a key may start. A line of a printed document takes
the scanner from one such state to the next, and adds the tokens of that line.
-/

namespace MarkerReport.Yaml.Scanner

/-- A scanner gets from one state to another by reading tokens, each of which takes at least one
glyph. -/
def Reads (scanner later : Scanner) : Prop :=
  ∃ count, count + later.rest.length ≤ scanner.rest.length ∧
    ∀ limit, run (limit + count) scanner = run limit later

theorem Reads.refl (scanner : Scanner) : Reads scanner scanner :=
  ⟨0, by simp, fun _ => rfl⟩

/-- Reading goes on from where reading has led. -/
theorem Reads.trans {first second third : Scanner} (one : Reads first second)
    (two : Reads second third) : Reads first third := by
  obtain ⟨count, shorter, same⟩ := one
  obtain ⟨more, shorter', same'⟩ := two
  refine ⟨more + count, by omega, fun limit => ?_⟩
  rw [← Nat.add_assoc, same, same']

/-- Skipping to the next token never adds glyphs. -/
theorem length_skipTo_le (inFlow inComment keyAllowed : Bool) (glyphs : List Glyph) :
    (skipTo inFlow inComment keyAllowed glyphs).2.length ≤ glyphs.length := by
  induction glyphs generalizing inComment keyAllowed with
  | nil => simp [skipTo]
  | cons glyph rest ih =>
      unfold skipTo
      repeat' split
      all_goals first | exact Nat.le_succ_of_le (ih _ _) | simp

/-- A scanner reads one token when it skips to it, drops the blocks it closes and takes at least its
first glyph. -/
theorem Reads.of_token {scanner next : Scanner} {keyAllowed : Bool} {glyph : Glyph}
    {rest : List Glyph}
    (skips : skipTo scanner.inFlow false scanner.keyAllowed scanner.rest =
      (keyAllowed, glyph :: rest))
    (read : ({ scanner with keyAllowed }.unroll (glyph.column + 1)).token glyph rest = some next)
    (shorter : next.rest.length ≤ rest.length) : Reads scanner next := by
  have length := length_skipTo_le scanner.inFlow false scanner.keyAllowed scanner.rest
  rw [skips, List.length_cons] at length
  refine ⟨1, by omega, fun limit => ?_⟩
  rw [run, skips]
  simp only [read]

/-- A run that can end from some state ends alike from every state that reads its way there: the
number of glyphs bounds the number of tokens. -/
theorem run_of_reads {scanner last : Scanner} {tokens : List Token} (reads : Reads scanner last)
    (ended : ∀ limit, run (limit + 1) last = some tokens) :
    run (scanner.rest.length + 1) scanner = some tokens := by
  obtain ⟨count, shorter, same⟩ := reads
  have enough : scanner.rest.length + 1 = scanner.rest.length - count + 1 + count := by omega
  rw [enough, same]
  exact ended _

/-- A token at the margin or behind it closes no block. -/
theorem unroll_of_margin_le {scanner : Scanner} {least : Nat} (within : scanner.margin ≤ least) :
    scanner.unroll least = scanner := by
  unfold unroll
  split
  · rfl
  · have open_ : ¬ scanner.margin > least := by omega
    cases margins : scanner.margins with
    | nil =>
        simp only [closeBlocks]
        rw [← margins]
    | cons around others =>
        simp only [closeBlocks, open_, if_false]
        rw [← margins]

/-- A scanner at the start of a line, with the tokens that it has read, the last one first, and the
text that is left. `opened` tells whether the mapping of the document has a key yet. -/
structure Ready (scanner : Scanner) (opened : Bool) (tokens : List Token) (text : List Char) :
    Prop where
  tokens : scanner.tokens = tokens
  outer : scanner.outer = []
  margin : scanner.margin = if opened then 1 else 0
  margins : scanner.margins = if opened then [0] else []
  free : ∀ start ∈ scanner.keyStart, start.required = false
  line : ∃ place : Place, place.column = 0 ∧
    skipTo false false scanner.keyAllowed scanner.rest = (true, place.glyphs text)

/-- A scanner within a line of the mapping of a document. -/
def within (tokens : List Token) (keyAllowed : Bool) (rest : List Glyph)
    (keyStart : Option KeyStart := none) : Scanner :=
  { rest, tokens, margin := 1, margins := [0], keyStart, keyAllowed }

/-- A scanner that skips to the start of a line is ready for it. -/
theorem ready_within {tokens : List Token} {keyAllowed : Bool} {rest : List Glyph}
    {keyStart : Option KeyStart} {place : Place} {text : List Char}
    (free : ∀ start ∈ keyStart, start.required = false) (column : place.column = 0)
    (skips : skipTo false false keyAllowed rest = (true, place.glyphs text)) :
    (within tokens keyAllowed rest keyStart).Ready true tokens text :=
  ⟨rfl, rfl, rfl, rfl, free, place, column, skips⟩

theorem dropKey_within (tokens : List Token) (keyAllowed : Bool) (rest : List Glyph) :
    (within tokens keyAllowed rest).dropKey = some (within tokens keyAllowed rest) := rfl

/-- A line of the document starts with a token, nothing is skipped there. -/
theorem skipTo_startsLine {text : List Char} (starts : startsLine text) (place : Place)
    (keyAllowed : Bool) :
    skipTo false false keyAllowed (place.glyphs text) = (keyAllowed, place.glyphs text) := by
  cases text with
  | nil => rfl
  | cons c rest =>
      have space : c ≠ ' ' := ne_of_startsLine starts (by decide)
      have tab : c ≠ '\t' := ne_of_startsLine starts (by decide)
      have mark : c ≠ byteOrderMark := ne_of_startsLine starts (by decide)
      have comment : c ≠ '#' := ne_of_startsLine starts (by decide)
      simp [skipTo, isBreak_of_startsLine starts, space, tab, mark, comment]

/-- The end of a line is skipped, and keys are allowed on the next. -/
theorem skipTo_lineFeed {text : List Char} (starts : startsLine text) (place : Place)
    (keyAllowed : Bool) :
    skipTo false false keyAllowed (place.glyphs ('\n' :: text)) =
      (true, (place.next '\n').glyphs text) := by
  have ends : isBreak '\n' = true := rfl
  rw [Place.glyphs_cons, skipTo]
  simp [ends, skipTo_startsLine starts]

section Words

variable {tokens : List Token} {keyAllowed : Bool} {place : Place} {c : Char}

/-- A key that may start further right than the keys of the mapping is not required. -/
theorem saveKey_within {rest : List Glyph} {glyph : Glyph} (inside : 0 < glyph.column) :
    ∃ start : Option KeyStart, (∀ found ∈ start, found.required = false) ∧
      (within tokens keyAllowed rest).saveKey glyph =
        some (within tokens keyAllowed rest start) := by
  cases keyAllowed with
  | false => exact ⟨none, by simp, rfl⟩
  | true =>
      refine ⟨_, ?_, rfl⟩
      intro found member
      obtain rfl := Option.some.inj member
      have apart : ¬ glyph.column = 0 := by omega
      simp [within, inFlow, apart]

/-- Behind a blank the scanner reads the token that the next character starts. -/
theorem reads_word {rest : List Char} {next : Scanner} (ends : isBreak c = false)
    (blank : isBlank c = false) (comment : c ≠ '#')
    (read : (within tokens keyAllowed (place.glyphs (' ' :: c :: rest))).token
      ((place.next ' ').glyph c) (((place.next ' ').next c).glyphs rest) = some next)
    (shorter : next.rest.length ≤ rest.length) :
    Reads (within tokens keyAllowed (place.glyphs (' ' :: c :: rest))) next := by
  have inLine : isBreak ' ' = false := rfl
  have column : (place.next ' ').column ≠ 0 := Nat.pos_iff_ne_zero.mp (place.column_next_pos inLine)
  have other : c ≠ ' ' ∧ c ≠ '\t' := by simpa [isBlank] using blank
  have skips : skipTo false false keyAllowed (place.glyphs (' ' :: c :: rest)) =
      (keyAllowed, (place.next ' ').glyphs (c :: rest)) := by
    simp [skipTo, inLine, ends, other, comment, column]
  refine Reads.of_token skips ?_ (by simpa using shorter)
  rw [unroll_of_margin_le]
  · exact read
  · exact Nat.succ_le_succ (Nat.zero_le _)

theorem atMark_of_ne {mark : Char} (other : c ≠ mark) (rest : List Glyph) :
    atMark mark (place.glyph c :: rest) = false := by
  unfold atMark
  rcases rest with _ | ⟨second, _ | ⟨third, rest⟩⟩
  · rfl
  · rfl
  · simp [other]

/-- Where there is no gap there is no blank. -/
theorem head?_any_isBlank_of_atGap {glyphs : List Glyph} (gapless : atGap glyphs = false) :
    glyphs.head?.any Glyph.isBlank = false := by
  cases glyphs with
  | nil => rfl
  | cons glyph rest =>
      rw [atGap, Bool.or_eq_false_iff] at gapless
      exact gapless.1

/-- A text that is fit for a plain scalar starts one. -/
theorem token_eq_plainScalar {scanner : Scanner} {rest tail : List Char}
    (block : scanner.outer = []) (fit : PlainText (c :: rest))
    (unmarked : atDocumentMark (place.glyphs (c :: rest ++ tail)) = false) :
    scanner.token (place.glyph c) ((place.next c).glyphs (rest ++ tail)) =
      scanner.plainScalar (place.glyph c) ((place.next c).glyphs (rest ++ tail)) := by
  have outside : scanner.inFlow = false := by simp [inFlow, block]
  have blank : isBlank c = false := fit.isBlank_first
  have ends : isBreak c = false := fit.inLine c (by simp)
  have clear := fit.start
  simp only [startsIndicator, Bool.or_eq_false_iff] at clear
  obtain ⟨⟨⟨indicator, sign⟩, -⟩, -⟩ := clear
  rw [List.cons_append, Place.glyphs_cons, atDocumentMark, Bool.or_eq_false_iff] at unmarked
  have gapless (signs : c = '?' ∨ c = ':' ∨ c = '-') :
      atGap ((place.next c).glyphs (rest ++ tail)) = false := by
    apply atGap_glyphs
    rcases signs with rfl | rfl | rfl
    · exact sign
    · exact sign
    · exact sign
  have entry : (c == '-' && atGap ((place.next c).glyphs (rest ++ tail))) = false := by
    by_cases dash : c = '-'
    · rw [gapless (.inr (.inr dash)), Bool.and_false]
    · simp [dash]
  have key : (c == '?' && atGap ((place.next c).glyphs (rest ++ tail))) = false := by
    by_cases mark : c = '?'
    · rw [gapless (.inl mark), Bool.and_false]
    · simp [mark]
  have value : (c == ':' && atGap ((place.next c).glyphs (rest ++ tail))) = false := by
    by_cases colon : c = ':'
    · rw [gapless (.inr (.inl colon)), Bool.and_false]
    · simp [colon]
  simp only [List.contains_eq_mem, List.mem_cons, List.not_mem_nil, or_false,
    decide_eq_false_iff_not, not_or] at indicator
  have starts : scanner.startsPlain (place.glyph c) ((place.next c).glyphs (rest ++ tail)) := by
    by_cases signs : c = '?' ∨ c = ':' ∨ c = '-'
    · have gap := gapless signs
      have blankless := head?_any_isBlank_of_atGap gap
      rcases signs with rfl | rfl | rfl
      · simp [startsPlain, outside, gap]
      · simp [startsPlain, outside, gap]
      · simp [startsPlain, blankless]
    · rw [not_or, not_or] at signs
      simp [startsPlain, blank, ends, indicator, signs]
  simp [token, unmarked, outside, entry, key, value, starts, indicator]

/-- What is read plain becomes a scalar, which may be a key. -/
theorem plainScalar_of_plain {scanner saved : Scanner} {glyph : Glyph} {rest after : List Glyph}
    {text : List Char} {broken : Bool} (saves : scanner.saveKey glyph = some saved)
    (read : plain scanner.inFlow scanner.margin .none (glyph :: rest) =
      some (text, broken, after)) :
    scanner.plainScalar glyph rest =
      some ((saved.push (.scalar .plain (String.ofList text))).moveTo after broken) := by
  rw [plainScalar, saves, read]

/-- A plain scalar, up to the start of the next line. -/
theorem reads_plain {text tail : List Char} (fit : PlainText text) (nonempty : text ≠ [])
    (starts : startsLine tail) :
    ∃ next, Reads (within tokens keyAllowed (place.glyphs (' ' :: (text ++ '\n' :: tail)))) next ∧
      next.Ready true (.scalar .plain (String.ofList text) :: tokens) tail := by
  obtain ⟨c, rest, rfl⟩ := List.exists_cons_of_ne_nil nonempty
  have blank : isBlank c = false := fit.isBlank_first
  have ends : isBreak c = false := fit.inLine c (by simp)
  have inLine : 0 < (place.next ' ').column := place.column_next_pos rfl
  have unmarked : atDocumentMark ((place.next ' ').glyphs (c :: rest ++ '\n' :: tail)) = false :=
    atDocumentMark_glyphs inLine _
  have stops := plain_lineFeed Nat.zero_lt_one ((place.next ' ').after (c :: rest)) starts
  have read := fit.plain unmarked stops
  obtain ⟨start, free, saved⟩ := @saveKey_within tokens keyAllowed
    (place.glyphs (' ' :: c :: (rest ++ '\n' :: tail))) ((place.next ' ').glyph c) inLine
  rw [List.cons_append, Place.glyphs_cons] at read
  rw [List.cons_append]
  refine ⟨within (.scalar .plain (String.ofList (c :: rest)) :: tokens) true
    ((((place.next ' ').after (c :: rest)).next '\n').glyphs tail) start,
    reads_word ends blank fit.first_ne_comment ?_ (by simp [within]; omega),
    ready_within free (Place.column_next_of_break _ rfl) (skipTo_startsLine starts _ _)⟩
  rw [token_eq_plainScalar rfl fit unmarked]
  exact plainScalar_of_plain saved read

/-- A single quote starts a scalar in single quotes. -/
theorem token_singleQuoted (scanner : Scanner) (rest : List Glyph) :
    scanner.token (place.glyph '\'') rest = scanner.keyed (place.glyph '\'')
      (scalarToken .singleQuoted (singleQuoted .none rest)) := by
  simp [token, atMark_of_ne]

/-- A double quote starts a scalar in double quotes. -/
theorem token_doubleQuoted (scanner : Scanner) (rest : List Glyph) :
    scanner.token (place.glyph '"') rest = scanner.keyed (place.glyph '"')
      (scalarToken .doubleQuoted (doubleQuoted (.text .none) rest)) := by
  simp [token, atMark_of_ne]

/-- A bar starts a literal block, outside flow sequences. -/
theorem token_literal {scanner : Scanner} (block : scanner.outer = []) (rest : List Glyph) :
    scanner.token (place.glyph '|') rest = scanner.blockToken .literal rest := by
  simp [token, atMark_of_ne, inFlow, block]

/-- What is read in quotes becomes a token, which may be a key. -/
theorem keyed_of_read {scanner saved : Scanner} {glyph : Glyph} {token : Token}
    {read : Option (Token × List Glyph)} {after : List Glyph}
    (saves : scanner.saveKey glyph = some saved) (found : read = some (token, after)) :
    scanner.keyed glyph read = some ((saved.push token).moveTo after false) := by
  unfold keyed
  rw [saves, found]

/-- What is read of a literal block becomes a scalar, behind which keys are allowed. -/
theorem blockToken_of_blockScalar {scanner dropped : Scanner} {rest after : List Glyph}
    {text : List Char} (drops : scanner.dropKey = some dropped)
    (read : blockScalar false scanner.margin rest = some (text, after)) :
    scanner.blockToken .literal rest =
      some ((dropped.push (.scalar .literal (String.ofList text))).moveTo after true) := by
  have literal : (ScalarStyle.literal == ScalarStyle.folded) = false := rfl
  unfold blockToken
  rw [drops, literal, read]
  rfl

/-- A quoted scalar, up to the end of its line. `quotes` is its reader. -/
theorem reads_quoted {style : ScalarStyle} {quotes : List Glyph → Option (List Char × List Glyph)}
    {body text tail : List Char} (ends : isBreak c = false) (blank : isBlank c = false)
    (comment : c ≠ '#')
    (token : ∀ (scanner : Scanner) (at_ : Place) (rest : List Glyph),
      scanner.token (at_.glyph c) rest =
        scanner.keyed (at_.glyph c) (scalarToken style (quotes rest)))
    (read : quotes (((place.next ' ').next c).glyphs (body ++ '\n' :: tail)) =
      some (text, (((place.next ' ').next c).after body).glyphs ('\n' :: tail)))
    (starts : startsLine tail) :
    ∃ next, Reads (within tokens keyAllowed
        (place.glyphs (' ' :: c :: (body ++ '\n' :: tail)))) next ∧
      next.Ready true (.scalar style (String.ofList text) :: tokens) tail := by
  have inLine : 0 < (place.next ' ').column := place.column_next_pos rfl
  obtain ⟨start, free, saved⟩ := @saveKey_within tokens keyAllowed
    (place.glyphs (' ' :: c :: (body ++ '\n' :: tail))) ((place.next ' ').glyph c) inLine
  refine ⟨within (.scalar style (String.ofList text) :: tokens) false
    ((((place.next ' ').next c).after body).glyphs ('\n' :: tail)) start,
    reads_word ends blank comment ?_ (by simp [within]),
    ready_within free (Place.column_next_of_break _ rfl) (skipTo_lineFeed starts _ _)⟩
  rw [token, read]
  exact keyed_of_read saved rfl

/-- A value in single quotes is read back, and the scanner is ready for the next line. -/
theorem reads_singleQuoted {text tail : List Char} (allowed : allowsSingle text)
    (unfed : '\n' ∉ text) (starts : startsLine tail) :
    ∃ next, Reads (within tokens keyAllowed
        (place.glyphs (' ' :: (printSingle text ++ '\n' :: tail)))) next ∧
      next.Ready true (.scalar .singleQuoted (String.ofList text) :: tokens) tail := by
  simp only [allowsSingle, needsEscape, Bool.and_eq_true, Bool.not_eq_true',
    Bool.or_eq_false_iff, List.any_eq_false] at allowed
  obtain ⟨⟨printable, unended⟩, unindented⟩ := allowed
  have ordinary : ∀ c ∈ text, isPrintable c ∧ c ≠ '\n' := fun c member =>
    ⟨by simpa using printable c member, by rintro rfl; exact unfed member⟩
  have inside : 0 < ((place.next ' ').next '\'').column := Place.column_next_pos _ rfl
  have read := @singleQuoted_glyphs .none false ((place.next ' ').next '\'') text ⟨rfl, inside⟩
    ordinary unended unindented tail
  rw [List.append_cons _ '\''] at read
  exact reads_quoted rfl rfl (by decide) (fun _ _ _ => token_singleQuoted _ _) read starts

/-- A value in double quotes is read back, and the scanner is ready for the next line. -/
theorem reads_doubleQuoted (text : List Char) {tail : List Char} (starts : startsLine tail) :
    ∃ next, Reads (within tokens keyAllowed
        (place.glyphs (' ' :: (printDouble text ++ '\n' :: tail)))) next ∧
      next.Ready true (.scalar .doubleQuoted (String.ofList text) :: tokens) tail := by
  have inside : 0 < ((place.next ' ').next '"').column := Place.column_next_pos _ rfl
  have read := @doubleQuoted_glyphs ((place.next ' ').next '"') .none inside rfl text
    ('\n' :: tail)
  rw [List.append_cons _ '"'] at read
  exact reads_quoted rfl rfl (by decide) (fun _ _ _ => token_doubleQuoted _ _) read starts

/-- A literal value is read back, and the scanner is ready for the next line. -/
theorem reads_literal {text tail : List Char} (nonempty : text ≠ []) (tabless : '\t' ∉ text)
    (starts : startsLine tail) :
    ∃ next, Reads (within tokens keyAllowed (place.glyphs
        (' ' :: '|' :: (blockHints text ++ '\n' :: (literalLines text ++ tail))))) next ∧
      next.Ready true (.scalar .literal (String.ofList text) :: tokens) tail := by
  have read := blockScalar_printed nonempty tabless ((place.next ' ').next '|') starts
  have column : (((place.next ' ').next '|').after
      (blockHints text ++ '\n' :: literalLines text)).column = 0 := by
    rw [Place.after_append]
    exact column_after_literalLines nonempty _
  refine ⟨within (.scalar .literal (String.ofList text) :: tokens) true
    ((((place.next ' ').next '|').after (blockHints text ++ '\n' :: literalLines text)).glyphs
      tail),
    reads_word rfl rfl (by decide) ?_ (by simp [within]; omega),
    ready_within (by simp) column (skipTo_startsLine starts _ _)⟩
  rw [token_literal rfl]
  exact blockToken_of_blockScalar (dropKey_within tokens keyAllowed _) read

end Words

end MarkerReport.Yaml.Scanner
