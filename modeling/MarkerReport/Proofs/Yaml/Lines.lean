import MarkerReport.Proofs.Yaml.Tokens

/-! # Lines of printed documents

A printed document is made of lines with a key and a scalar, and of keys with the entries of a
sequence behind them. Each of these takes the scanner from the start of a line to the start of
another.
-/

namespace MarkerReport.Yaml

/-- The styles in which a text can be printed, and what each of them takes. -/
theorem styleFor_cases (text : String) :
    (styleFor text = .plain ∧ PlainText text.toList ∧ text.toList ≠ []) ∨
      (styleFor text = .singleQuoted ∧ allowsSingle text.toList ∧ '\n' ∉ text.toList) ∨
      (styleFor text = .literal ∧ allowsBlock text.toList) ∨
      styleFor text = .doubleQuoted := by
  by_cases fed : '\n' ∈ text.toList
  · by_cases block : allowsBlock text.toList
    · simp [styleFor, fed, block]
    · simp [styleFor, fed, block]
  · by_cases plain : !isAmbiguous text && allowsPlain text.toList
    · have nonempty : text.toList ≠ [] := by
        intro empty
        obtain rfl := String.toList_eq_nil_iff.mp empty
        simp [isAmbiguous] at plain
      have fit := plainText_of_allowsPlain (Bool.and_eq_true _ _ ▸ plain).2
      simp only [styleFor, List.contains_eq_mem, fed, decide_false, plain]
      exact .inl ⟨rfl, fit, nonempty⟩
    · by_cases single : allowsSingle text.toList
      · simp [styleFor, fed, plain, single]
      · simp [styleFor, fed, plain, single]

/-- A line that does not end with a break gets one. -/
theorem endLine_of_not_break {printed : List Char}
    (open_ : printed.getLast?.any isBreak = false) : endLine printed = printed ++ ['\n'] := by
  simp [endLine, open_]

/-- Indenting its lines leaves the end of a text as it is. -/
theorem getLast?_literalBody {text : List Char} (nonempty : text ≠ []) (fresh : Bool) :
    (literalBody fresh text).getLast? = text.getLast? := by
  induction text generalizing fresh with
  | nil => exact (nonempty rfl).elim
  | cons c rest ih =>
      rw [literalBody]
      by_cases more : rest = []
      · subst more
        split <;> simp [literalBody]
      · split
        · simp [List.getLast?_cons, ih more]
        · simp [List.getLast?_append, List.getLast?_cons, ih more]

/-- A text in plain style is an entry as it stands. -/
theorem printEntry_plain {text : String} (style : styleFor text = .plain)
    (fit : PlainText text.toList) (nonempty : text.toList ≠ []) :
    printEntry text = '-' :: ' ' :: (text.toList ++ ['\n']) := by
  rw [printEntry, printScalar, style, endLine_of_not_break]
  · rfl
  · have last := fit.inLine _ (List.getLast_mem nonempty)
    simp [List.getLast?_cons, List.getLast?_eq_some_getLast nonempty, last]

/-- A text in single quotes is an entry on one or more lines behind a dash. -/
theorem printEntry_single {text : String} (style : styleFor text = .singleQuoted) :
    printEntry text = '-' :: ' ' :: (printSingle text.toList ++ ['\n']) := by
  rw [printEntry, printScalar, style, endLine_of_not_break]
  · rfl
  · simp [printSingle, List.getLast?_cons, isBreak]

/-- A text in double quotes is an entry on one line behind a dash. -/
theorem printEntry_double {text : String} (style : styleFor text = .doubleQuoted) :
    printEntry text = '-' :: ' ' :: (printDouble text.toList ++ ['\n']) := by
  rw [printEntry, printScalar, style, endLine_of_not_break]
  · rfl
  · simp [printDouble, List.getLast?_cons, isBreak]

/-- A literal text is an entry with its hints on the line of the dash and its own lines below. -/
theorem printEntry_literal {text : String} (style : styleFor text = .literal)
    (nonempty : text.toList ≠ []) :
    printEntry text =
      '-' :: ' ' :: '|' :: (blockHints text.toList ++ '\n' :: literalLines text.toList) := by
  have last : ('-' :: ' ' :: printLiteral text.toList).getLast? = text.toList.getLast? := by
    have body := getLast?_literalBody nonempty true
    rw [List.getLast?_eq_some_getLast nonempty] at body ⊢
    simp [printLiteral, List.getLast?_cons, List.getLast?_append, body]
  rw [printEntry, printScalar, style, endLine, last, literalLines]
  split
  · rfl
  · simp [printLiteral]

theorem printable_indentationIf (broken : Bool) : ∀ c ∈ indentationIf broken, isPrintable c := by
  have blank : isPrintable ' ' = true := by decide
  cases broken <;> simp [indentationIf, indentation, blank]

theorem printable_singleBody {text : List Char} (printable : ∀ c ∈ text, isPrintable c)
    (broken : Bool) : ∀ c ∈ singleBody broken text, isPrintable c := by
  induction text generalizing broken with
  | nil => exact printable_indentationIf broken
  | cons d rest ih =>
      obtain ⟨first, later⟩ := List.forall_mem_cons.mp printable
      have quote : isPrintable '\'' = true := by decide
      have written : ∀ c ∈ singleChar d, isPrintable c := by
        unfold singleChar
        split <;> simp [quote, first]
      rw [singleBody_cons]
      split
      · exact List.forall_mem_cons.mpr ⟨first, ih later true⟩
      split
      · exact List.forall_mem_cons.mpr ⟨first, ih later broken⟩
      · simp only [List.forall_mem_append]
        exact ⟨⟨printable_indentationIf broken, written⟩, ih later false⟩

theorem printable_literalBody {text : List Char} (printable : ∀ c ∈ text, isPrintable c)
    (fresh : Bool) : ∀ c ∈ literalBody fresh text, isPrintable c := by
  induction text generalizing fresh with
  | nil => simp [literalBody]
  | cons d rest ih =>
      obtain ⟨first, later⟩ := List.forall_mem_cons.mp printable
      rw [literalBody]
      split
      · exact List.forall_mem_cons.mpr ⟨first, ih later true⟩
      · rw [List.forall_mem_append, List.forall_mem_cons]
        exact ⟨printable_indentationIf fresh, first, ih later false⟩

theorem printable_blockHints (text : List Char) : ∀ c ∈ blockHints text, isPrintable c := by
  have signs : isPrintable '2' ∧ isPrintable '-' ∧ isPrintable '+' := by decide
  unfold blockHints
  rw [List.forall_mem_append]
  constructor
  · split <;> simp [signs]
  · split
    · simp [signs]
    split
    · simp [signs]
    split <;> simp [signs]

/-- Whatever the style, a scalar is printed in printable characters. -/
theorem printable_printScalar (text : String) : ∀ c ∈ printScalar text, isPrintable c := by
  have quotes : isPrintable '\'' = true ∧ isPrintable '"' = true := by decide
  rcases styleFor_cases text with ⟨style, fit, -⟩ | ⟨style, allowed, -⟩ | ⟨style, allowed⟩ |
    style
  · simpa [printScalar, style] using fit.printable
  · simp only [allowsSingle, Bool.and_eq_true, Bool.not_eq_true'] at allowed
    have body := printable_singleBody (isPrintable_of_needsEscape allowed.1) false
    simp only [printScalar, style, printSingle, List.cons_append, List.forall_mem_cons,
      List.forall_mem_append]
    exact ⟨quotes.1, body, quotes.1, by simp⟩
  · simp only [allowsBlock, Bool.and_eq_true, Bool.not_eq_true'] at allowed
    have body := printable_literalBody (isPrintable_of_needsEscape allowed.1.2) true
    simp only [printScalar, style, printLiteral, List.cons_append, List.forall_mem_cons,
      List.forall_mem_append]
    exact ⟨by decide, printable_blockHints _, by decide, body⟩
  · simp only [printScalar, style, printDouble, List.cons_append, List.forall_mem_cons,
      List.forall_mem_append]
    refine ⟨quotes.2, ?_, quotes.2, by simp⟩
    intro c member
    obtain ⟨d, -, written⟩ := List.mem_flatMap.mp member
    exact (escape_printable d c written).1

/-- An entry is printed in printable characters. -/
theorem printable_printEntry (text : String) : ∀ c ∈ printEntry text, isPrintable c := by
  have printed := printable_printScalar text
  unfold printEntry endLine
  split
  all_goals
    simp only [List.cons_append, List.forall_mem_cons, List.forall_mem_append]
  · exact ⟨by decide, by decide, printed⟩
  · exact ⟨by decide, by decide, printed, by decide, by simp⟩

namespace Scanner

/-- The tokens of an entry of a sequence. -/
def entryTokens (text : String) : List Token := [.blockEntry, .scalar (styleFor text) text]

/-- A scanner that is to read the first token of a line. -/
def atLine (opened : Bool) (tokens : List Token) (rest : List Glyph)
    (keyStart : Option KeyStart) : Scanner where
  rest := rest
  tokens := tokens
  margin := if opened then 1 else 0
  margins := if opened then [0] else []
  keyStart := keyStart

/-- A scanner ready for a line reads it by reading its first token at the start of that line. -/
theorem Ready.exists_atLine {scanner : Scanner} {opened : Bool} {tokens : List Token} {c : Char}
    {text : List Char} (ready : scanner.Ready opened tokens (c :: text)) :
    ∃ (place : Place) (keyStart : Option KeyStart) (rest : List Glyph),
      place.column = 0 ∧ (∀ start ∈ keyStart, start.required = false) ∧
      ∀ next, (atLine opened tokens rest keyStart).token (place.glyph c)
          ((place.next c).glyphs text) = some next →
        next.rest.length ≤ text.length → Reads scanner next := by
  obtain ⟨rest, stack, margin, margins, keyStart, outer, keyAllowed⟩ := scanner
  obtain ⟨rfl, rfl, rfl, rfl, free, place, column, skips⟩ := ready
  refine ⟨place, keyStart, rest, column, free, fun next read shorter => ?_⟩
  refine Reads.of_token skips ?_ (by simpa using shorter)
  rw [unroll_of_margin_le]
  · exact read
  · simp only
    split <;> omega

/-- At the start of a line a key that is not required can be given up. -/
theorem dropKey_atLine {opened : Bool} {tokens : List Token} {rest : List Glyph}
    {keyStart : Option KeyStart} (free : ∀ start ∈ keyStart, start.required = false) :
    (atLine opened tokens rest keyStart).dropKey = some (atLine opened tokens rest none) := by
  cases keyStart with
  | none => rfl
  | some start => simp [dropKey, atLine, free start rfl]

/-- A dash and a blank start an entry where keys are allowed. -/
theorem token_blockEntry {scanner dropped : Scanner} {place : Place} (text : List Char)
    (block : scanner.outer = []) (allowed : scanner.keyAllowed = true)
    (column : place.column < scanner.margin) (drops : scanner.dropKey = some dropped) :
    scanner.token (place.glyph '-') ((place.next '-').glyphs (' ' :: text)) =
      some ((dropped.push .blockEntry).moveTo ((place.next '-').glyphs (' ' :: text)) true) := by
  have gap : atGap ((place.next '-').glyphs (' ' :: text)) = true := rfl
  have unmarked :
      atMark '-' (place.glyph '-' :: (place.next '-').glyphs (' ' :: text)) = false := by
    cases text with
    | nil => rfl
    | cons c text => simp [atMark]
  have other : atMark '.' (place.glyph '-' :: (place.next '-').glyphs (' ' :: text)) = false :=
    atMark_of_ne (by decide) _
  have inside : ¬ scanner.margin ≤ place.column := by omega
  have sign : scanner.token (place.glyph '-') ((place.next '-').glyphs (' ' :: text)) =
      scanner.blockSign (place.glyph '-') ((place.next '-').glyphs (' ' :: text))
        .blockSequenceStart .blockEntry true := by
    unfold token
    simp only [unmarked, other, gap]
    simp
  rw [sign]
  simp [blockSign, inFlow, block, allowed, roll, opensBlock, inside, drops]

/-- The dash of an entry is read, and its text is next. -/
theorem Ready.sign {scanner : Scanner} {tokens : List Token} {text : List Char}
    (ready : scanner.Ready true tokens ('-' :: ' ' :: text)) :
    ∃ place : Place,
      Reads scanner (within (.blockEntry :: tokens) true (place.glyphs (' ' :: text))) := by
  obtain ⟨place, keyStart, rest, column, free, reads⟩ := ready.exists_atLine
  have inside : place.column < 1 := by omega
  exact ⟨place.next '-', reads _ (token_blockEntry text rfl rfl inside (dropKey_atLine free))
    (by simp [within])⟩

/-- An entry is read, and the scanner is ready for what follows: all four styles in one statement.
-/
theorem Ready.entry {scanner : Scanner} {tokens : List Token} {text : String} {tail : List Char}
    (ready : scanner.Ready true tokens (printEntry text ++ tail)) (starts : startsLine tail) :
    ∃ next, Reads scanner next ∧
      next.Ready true ((entryTokens text).reverse ++ tokens) tail := by
  have behindSign (word : List Char) (printed : printEntry text ++ tail = '-' :: ' ' :: word)
      (reads : ∀ place : Place, ∃ next,
        Reads (within (.blockEntry :: tokens) true (place.glyphs (' ' :: word))) next ∧
          next.Ready true (.scalar (styleFor text) text :: .blockEntry :: tokens) tail) :
      ∃ next, Reads scanner next ∧
        next.Ready true ((entryTokens text).reverse ++ tokens) tail := by
    rw [printed] at ready
    obtain ⟨place, sign⟩ := ready.sign
    obtain ⟨next, word, behind⟩ := reads place
    exact ⟨next, sign.trans word, behind⟩
  have written : String.ofList text.toList = text := String.ofList_toList
  rcases styleFor_cases text with ⟨style, fit, nonempty⟩ | ⟨style, allowed, unfed⟩ |
    ⟨style, allowed⟩ | style
  · refine behindSign (text.toList ++ '\n' :: tail) ?_ fun place => ?_
    · simp [printEntry_plain style fit nonempty]
    · simpa [style, written] using reads_plain fit nonempty starts
  · refine behindSign (printSingle text.toList ++ '\n' :: tail) ?_ fun place => ?_
    · simp [printEntry_single style]
    · simpa [style, written] using reads_singleQuoted allowed unfed starts
  · simp only [allowsBlock, needsEscape, Bool.and_eq_true, Bool.not_eq_true',
      Bool.or_eq_false_iff, List.any_eq_false, List.isEmpty_eq_false_iff] at allowed
    obtain ⟨⟨nonempty, printable, -⟩, -⟩ := allowed
    have tabless : '\t' ∉ text.toList := fun member => printable _ member rfl
    refine behindSign
      ('|' :: (blockHints text.toList ++ '\n' :: (literalLines text.toList ++ tail))) ?_
      fun place => ?_
    · simp [printEntry_literal style nonempty]
    · simpa [style, written] using reads_literal nonempty tabless starts
  · refine behindSign (printDouble text.toList ++ '\n' :: tail) ?_ fun place => ?_
    · simp [printEntry_double style]
    · simpa [style, written] using reads_doubleQuoted text.toList starts

/-- Entries start lines as a document can. -/
theorem startsLine_entries (texts : List String) {tail : List Char} (starts : startsLine tail) :
    startsLine (texts.flatMap printEntry ++ tail) := by
  cases texts with
  | nil => exact starts
  | cons text texts =>
      rw [List.flatMap_cons, printEntry, endLine]
      split <;> rfl

/-- The entries of a sequence are read one after the other, by induction on the list. -/
theorem Ready.entries {scanner : Scanner} {tokens : List Token} {texts : List String}
    {tail : List Char} (ready : scanner.Ready true tokens (texts.flatMap printEntry ++ tail))
    (starts : startsLine tail) :
    ∃ next, Reads scanner next ∧
      next.Ready true ((texts.flatMap entryTokens).reverse ++ tokens) tail := by
  induction texts generalizing scanner tokens with
  | nil => exact ⟨scanner, .refl scanner, ready⟩
  | cons text texts ih =>
      rw [List.flatMap_cons, List.append_assoc] at ready
      obtain ⟨middle, first, between⟩ := ready.entry (startsLine_entries texts starts)
      obtain ⟨next, later, behind⟩ := ih between
      exact ⟨next, first.trans later, by simpa using behind⟩

/-- Whether a text can be a key: a plain scalar that starts with a letter and is not too long. -/
def isKey (key : List Char) : Bool :=
  allowsPlain key && key.head?.any Char.isLower && decide (key.length ≤ keyLimit)

/-- The tokens of a key and the sign behind it. The first key opens the mapping of a document. -/
def keyTokens (opened : Bool) (key : List Char) : List Token :=
  (if opened then [] else [.blockMappingStart]) ++
    [.key, .scalar .plain (String.ofList key), .value]

/-- A token at the start of a line may turn out to be a key. -/
theorem saveKey_atLine {opened : Bool} {tokens : List Token} {rest : List Glyph}
    {keyStart : Option KeyStart} (free : ∀ start ∈ keyStart, start.required = false)
    (glyph : Glyph) :
    ∃ required, (atLine opened tokens rest keyStart).saveKey glyph =
      some (atLine opened tokens rest (some ⟨required, tokens.length, glyph⟩)) := by
  rw [saveKey, dropKey_atLine free]
  exact ⟨_, rfl⟩

/-- The sign behind a key, on the same line. -/
theorem token_value {opened required : Bool} {tokens : List Token} {glyph : Glyph}
    {place : Place} {rest : List Glyph} {key : List Char} (column : glyph.column = 0)
    (line : glyph.line = place.line) (near : place.index ≤ glyph.index + keyLimit)
    (separates : atGap rest) (remains : List Glyph) :
    (((atLine opened tokens remains (some ⟨required, tokens.length, glyph⟩)).push
        (.scalar .plain (String.ofList key))).moveTo (place.glyph ':' :: rest) false).token
        (place.glyph ':') rest =
      some (within ((keyTokens opened key).reverse ++ tokens) false rest) := by
  have reaches : reachesKey ⟨required, tokens.length, glyph⟩ (place.glyph ':') = true := by
    simp [reachesKey, line, near]
  have dash : atMark '-' (place.glyph ':' :: rest) = false := atMark_of_ne (by decide) _
  have dot : atMark '.' (place.glyph ':' :: rest) = false := atMark_of_ne (by decide) _
  have sign (scanner : Scanner) : scanner.token (place.glyph ':') rest =
      scanner.value (place.glyph ':') rest := by
    unfold token
    simp only [dash, dot, separates]
    simp
  rw [sign, value]
  simp only [atLine, push, moveTo, reaches, if_true]
  cases opened with
  | false => simp [insertKey, opensBlock, inFlow, column, keyTokens, within]
  | true => simp [insertKey, opensBlock, inFlow, column, keyTokens, within]

/-- A key, up to what stands behind its sign. -/
theorem Ready.key {scanner : Scanner} {opened : Bool} {tokens : List Token}
    {key rest : List Char} {gap : Char}
    (ready : scanner.Ready opened tokens (key ++ ':' :: gap :: rest)) (proper : isKey key)
    (separates : isBlank gap || isBreak gap) :
    ∃ place : Place, Reads scanner
      (within ((keyTokens opened key).reverse ++ tokens) false (place.glyphs (gap :: rest))) := by
  simp only [isKey, Bool.and_eq_true, decide_eq_true_eq] at proper
  obtain ⟨⟨allowed, letter⟩, short⟩ := proper
  cases key with
  | nil => simp at letter
  | cons c more =>
      have lower : c.isLower = true := letter
      have fit := plainText_of_allowsPlain allowed
      obtain ⟨place, keyStart, remains, column, free, reads⟩ := ready.exists_atLine
      obtain ⟨required, saved⟩ := @saveKey_atLine opened tokens remains keyStart free
        (place.glyph c)
      have behind := place.after_of_not_break fit.inLine
      have inLine : 0 < (place.after (c :: more)).column := by
        rw [behind]
        exact Nat.add_pos_right _ (Nat.succ_pos _)
      have dash : c ≠ '-' := ne_of_apply_ne Char.isLower (by rw [lower]; decide)
      have dot : c ≠ '.' := ne_of_apply_ne Char.isLower (by rw [lower]; decide)
      have unmarked :
          atDocumentMark (place.glyphs (c :: more ++ ':' :: gap :: rest)) = false := by
        rw [List.cons_append, Place.glyphs_cons, atDocumentMark, atMark_of_ne dash,
          atMark_of_ne dot]
        rfl
      have read := fit.plain unmarked
        (@plain_colon (if opened then 1 else 0) _ _ inLine separates rest)
      have word := (token_eq_plainScalar rfl fit unmarked).trans
        (plainScalar_of_plain saved read)
      have skips : skipTo false false false
          ((place.after (c :: more)).glyphs (':' :: gap :: rest)) =
            (false, (place.after (c :: more)).glyphs (':' :: gap :: rest)) := by
        have inside : isBreak ':' = false := rfl
        have mark : ':' ≠ byteOrderMark := by decide
        rw [Place.glyphs_cons, skipTo]
        simp [inside, mark]
      have gapped : atGap (((place.after (c :: more)).next ':').glyphs (gap :: rest)) = true :=
        separates
      refine ⟨(place.after (c :: more)).next ':',
        (reads _ word (by simp [moveTo])).trans (Reads.of_token skips ?_ (by simp [within]))⟩
      rw [unroll_of_margin_le]
      · exact token_value column (by rw [behind]; rfl) (by rw [behind]; simpa using short)
          gapped _
      · simp only [moveTo, push, atLine]
        split <;> omega

/-- A scanner within a flow sequence in a line of the mapping of a document. -/
def withinFlow (tokens : List Token) (rest : List Glyph) : Scanner :=
  { within tokens true rest with outer := [none] }

/-- An opening bracket starts a flow sequence. -/
theorem token_openSequence (tokens : List Token) (rest more : List Glyph) (place : Place) :
    (within tokens false rest).token (place.glyph '[') more =
      some (withinFlow (.flowSequenceStart :: tokens) more) := by
  simp [token, atMark_of_ne, openFlow, saveKey, within, withinFlow, push, moveTo]

/-- A closing bracket ends it and leads back to the block. -/
theorem token_closeSequence (tokens : List Token) (rest more : List Glyph) (place : Place) :
    (withinFlow tokens rest).token (place.glyph ']') more =
      some (within (.flowSequenceEnd :: tokens) false more) := by
  simp [token, atMark_of_ne, closeFlow, dropKey, within, withinFlow, push, moveTo]

/-- A sequence without entries, up to the end of its line. -/
theorem reads_emptySequence {tokens : List Token} {place : Place} {tail : List Char}
    (starts : startsLine tail) :
    ∃ next, Reads (within tokens false (place.glyphs (' ' :: '[' :: ']' :: '\n' :: tail))) next ∧
      next.Ready true (.flowSequenceEnd :: .flowSequenceStart :: tokens) tail := by
  have opens := @reads_word tokens false place '[' (']' :: '\n' :: tail) _ rfl rfl (by decide)
    (token_openSequence tokens _ ((((place.next ' ').next '[')).glyphs (']' :: '\n' :: tail)) _)
    (by simp [withinFlow, within])
  have skips : skipTo true false true (((place.next ' ').next '[').glyphs (']' :: '\n' :: tail)) =
      (true, ((place.next ' ').next '[').glyphs (']' :: '\n' :: tail)) := by
    have inside : isBreak ']' = false := rfl
    have mark : ']' ≠ byteOrderMark := by decide
    rw [Place.glyphs_cons, skipTo]
    simp [inside, mark]
  have closes : Reads (withinFlow (.flowSequenceStart :: tokens)
        (((place.next ' ').next '[').glyphs (']' :: '\n' :: tail)))
      (within (.flowSequenceEnd :: .flowSequenceStart :: tokens) false
        ((((place.next ' ').next '[').next ']').glyphs ('\n' :: tail))) :=
    Reads.of_token skips (token_closeSequence _ _ _ _) (by simp [within])
  exact ⟨_, opens.trans closes,
    ready_within (by simp) (Place.column_next_of_break _ rfl) (skipTo_lineFeed starts _ _)⟩

end Scanner

end MarkerReport.Yaml
