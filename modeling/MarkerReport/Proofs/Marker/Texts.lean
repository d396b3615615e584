import MarkerReport.Proofs.Marker.Closes
import MarkerReport.Proofs.Marker.Returns
import MarkerReport.Proofs.Marker.Words
import MarkerReport.Proofs.Text.Blanks

/-! # Texts of findings in comments

What follows a keyword in a comment runs to the next keyword, to the end of the line or to the end
of the comment. The text of its finding is cut from that: separators are dropped at the front,
blanks at the end, and for the last keyword also a `*/` with the blanks around it. Nothing else gets
lost. Where keywords are words the text of a finding holds none of them, because every word of the
text is a word of the comment, and lies between two keywords
(`MarkerReport.Finding.inComment_texts`).
-/

namespace MarkerReport.Occurrence

open Comment

/-- The text behind an occurrence up to the nearest of the next occurrence, the next line feed and
the end of the text. -/
structure Follows (text : List Char) (hits : List Occurrence) (hit : Occurrence)
    (segment : List Char) : Prop where
  located : segment <+: text.drop hit.stop
  feedless : '\n' ∉ segment
  apart : ∀ other ∈ hits, hit.start < other.start → hit.stop + segment.length ≤ other.start
  ends : hit.stop + segment.length = text.length ∨
    text[hit.stop + segment.length]? = some '\n' ∨
    ∃ other ∈ hits, hit.start < other.start ∧ other.start = hit.stop + segment.length

/-- Only one text follows an occurrence: whatever ends a shorter one, no longer one gets past it. -/
theorem Follows.length_le {text : List Char} {hits : List Occurrence} {hit : Occurrence}
    {segment other : List Char} (follows : Follows text hits hit segment)
    (also : Follows text hits hit other) : segment.length ≤ other.length := by
  by_contra longer
  obtain ⟨rest, whole⟩ := follows.located
  rcases also.ends with finished | feed | ⟨next, member, behind, start⟩
  · have total := congrArg List.length whole
    simp only [List.length_append, List.length_drop] at total
    omega
  · rw [← List.getElem?_drop, ← whole, List.getElem?_append_left (by omega)] at feed
    exact follows.feedless (List.mem_of_getElem? feed)
  · have before := follows.apart next member behind
    omega

/-- The segment that follows a hit is determined by where it starts and ends. -/
theorem Follows.unique {text : List Char} {hits : List Occurrence} {hit : Occurrence}
    {segment other : List Char} (follows : Follows text hits hit segment)
    (also : Follows text hits hit other) : segment = other := by
  have same := (follows.length_le also).antisymm (also.length_le follows)
  exact (List.prefix_of_prefix_length_le follows.located also.located same.le).eq_of_length same

/-- The hits behind one of a spread list are spread behind it. -/
theorem Spread.behind {spellings : List (List Char)} {text : List Char} {offset : Nat}
    {before later : List Occurrence} {hit : Occurrence}
    (spread : Spread spellings text offset (before ++ hit :: later)) :
    Spread spellings text hit.stop later := by
  induction before generalizing offset with
  | nil =>
      cases spread with
      | cons part rest => exact rest
  | cons first before ih =>
      cases spread with
      | cons part rest => exact ih rest

theorem isPrefix_untilNext (cs : List Char) (offset : Nat) (later : List Occurrence) :
    untilNext cs offset later <+: cs := by
  cases later with
  | nil => exact List.prefix_rfl
  | cons next more => exact List.take_prefix _ cs

/-- Right behind the first line of a text with a feed stands that feed. -/
theorem getElem?_length_untilFeed {part : List Char} (feed : (fromFeed part).head? = some '\n')
    (after : List Char) : (part ++ after)[(untilFeed part).length]? = some '\n' := by
  obtain ⟨rest, behind⟩ := List.head?_eq_some_iff.mp feed
  have split : part ++ after = untilFeed part ++ '\n' :: (rest ++ after) := by
    rw [← List.cons_append, ← behind, ← List.append_assoc, untilFeed_append_fromFeed]
  rw [split, List.getElem?_append_right le_rfl, Nat.sub_self]
  rfl

/-- Up to the next occurrence no occurrence starts. -/
theorem Spread.length_untilNext_le {spellings : List (List Char)} {text : List Char} {offset : Nat}
    {later : List Occurrence} (spread : Spread spellings text offset later)
    (ascending : later.Pairwise fun first second => first.start < second.start)
    {other : Occurrence} (member : other ∈ later) :
    offset + (untilNext (text.drop offset) offset later).length ≤ other.start := by
  cases spread with
  | nil => exact (List.not_mem_nil member).elim
  | @cons _ next more part rest =>
      have reached := part.reached
      have first : next.start ≤ other.start := by
        rcases List.mem_cons.mp member with rfl | beyond
        · exact le_rfl
        · exact ((List.pairwise_cons.mp ascending).1 other beyond).le
      rw [untilNext, List.length_take]
      omega

/-- A word of a text is not empty. -/
theorem IsWordOf.start_lt_stop {text : List Char} {word : Occurrence}
    (isWord : IsWordOf text word) : word.start < word.stop :=
  Nat.lt_add_of_pos_right (List.length_pos_iff.mpr isWord.nonempty)

/-- A word of a text ends inside it. -/
theorem IsWordOf.stop_le {text : List Char} {word : Occurrence} (isWord : IsWordOf text word) :
    word.stop ≤ text.length := by
  have order := isWord.start_lt_stop
  have fits := isWord.located.length_le
  rw [List.length_drop] at fits
  rw [stop] at order ⊢
  omega

section

variable {spellings : List (List Char)} {text : List Char} {hits before later : List Occurrence}
  {hit : Occurrence} (whole : hits = before ++ hit :: later)
  (ascending : hits.Pairwise fun first second => first.start < second.start)

include whole ascending

/-- A hit that starts behind another one comes later in the list. -/
theorem mem_later_of_start_lt {other : Occurrence} (member : other ∈ hits)
    (behind : hit.start < other.start) : other ∈ later := by
  rw [whole] at member ascending
  rcases List.mem_append.mp member with early | late
  · have order := (List.pairwise_append.mp ascending).2.2 other early hit List.mem_cons_self
    omega
  · rcases List.mem_cons.mp late with rfl | beyond
    · exact (lt_irrefl _ behind).elim
    · exact beyond

/-- The part of the line up to the next occurrence follows an occurrence. -/
theorem follows_untilNext (spread : Spread spellings text 0 hits)
    (words : ∀ word ∈ hits, IsWordOf text word) :
    Follows text hits hit (untilFeed (untilNext (text.drop hit.stop) hit.stop later)) := by
  have rest : Spread spellings text hit.stop later := Spread.behind (whole ▸ spread)
  have order : (hit :: later).Pairwise fun first second => first.start < second.start :=
    (List.pairwise_append.mp (whole ▸ ascending)).2.1
  have within : hit.stop ≤ text.length := (words hit (by simp [whole])).stop_le
  obtain ⟨after, cut⟩ := isPrefix_untilNext (text.drop hit.stop) hit.stop later
  have lines := untilFeed_append_fromFeed (untilNext (text.drop hit.stop) hit.stop later)
  have short := congrArg List.length lines
  rw [List.length_append] at short
  refine ⟨?_, feed_not_mem_untilFeed _, ?_, ?_⟩
  · exact (List.takeWhile_prefix _).trans (isPrefix_untilNext _ _ _)
  · intro other member behind
    have among := mem_later_of_start_lt whole ascending member behind
    have before := rest.length_untilNext_le (List.pairwise_cons.mp order).2 among
    omega
  · rcases fromFeed_ends (untilNext (text.drop hit.stop) hit.stop later) with all | feed
    · rw [all, List.append_nil] at lines
      rw [lines]
      cases later with
      | nil =>
          rw [untilNext, List.length_drop]
          exact .inl (by omega)
      | cons next more =>
          have listed : next ∈ hits := by simp [whole]
          have inside := (words next listed).stop_le
          have starts := (words next listed).start_lt_stop
          cases rest with
          | cons part _ =>
              have reached := part.reached
              refine .inr (.inr ⟨next, listed, (List.pairwise_cons.mp order).1 next
                List.mem_cons_self, ?_⟩)
              rw [untilNext, List.length_take, List.length_drop]
              omega
    · refine .inr (.inl ?_)
      have here := getElem?_length_untilFeed feed after
      rwa [cut, List.getElem?_drop] at here

end

/-- A word of a part of a text is a word of the text, unless an end of the part cuts it off. -/
theorem IsWordOf.within {front part back : List Char} {word : Occurrence}
    (isWord : IsWordOf part word)
    (opens : wordAt front.getLast? = false ∨ wordAt part.head? = false)
    (closes : wordAt part.getLast? = false ∨ wordAt back.head? = false) :
    IsWordOf (front ++ (part ++ back)) ⟨front.length + word.start, word.word⟩ := by
  obtain ⟨passed, cs, rfl, length⟩ :
      ∃ passed cs, passed ++ cs = part ∧ passed.length = word.start := by
    have bounds := isWord.stop_le
    have order := isWord.start_lt_stop
    exact ⟨part.take word.start, part.drop word.start, List.take_append_drop _ _,
      List.length_take_of_le (by omega)⟩
  obtain ⟨start, word⟩ := word
  obtain rfl : passed.length = start := length
  obtain ⟨⟨before, starts⟩, rfl⟩ := (isWordOf_iff_of_start passed cs word).mp isWord
  have occupied : cs ≠ [] := by
    rintro rfl
    simp [wordAt] at starts
  rw [← List.length_append, List.append_assoc, ← List.append_assoc, isWordOf_iff_of_start]
  refine ⟨⟨?_, ?_⟩, ?_⟩
  · rw [List.getLast?_append]
    cases passed with
    | nil =>
        rw [List.nil_append, starts] at opens
        simpa using opens
    | cons c passed => simpa [List.getLast?_cons] using before
  · rwa [List.head?_append_of_ne_nil _ occupied]
  · rw [List.takeWhile_append]
    split
    · -- The word reaches the end of the part, so it must not go on behind it.
      rename_i whole
      have same := (List.takeWhile_prefix Text.isWord (l := cs)).eq_of_length whole
      have last : wordAt (passed ++ cs).getLast? = true := by
        rw [List.getLast?_append]
        apply wordAt_getLast?_of_all occupied
        rw [← same]
        exact List.all_takeWhile
      have ends : wordAt back.head? = false := by
        rcases closes with inside | outside
        · rw [last] at inside
          exact Bool.noConfusion inside
        · exact outside
      rw [(wordAt_head?_eq_false_iff back).mp ends, List.append_nil, same]
    · rfl

end MarkerReport.Occurrence

namespace MarkerReport.Finding

open Comment Occurrence

/-- What follows a keyword ends in `*/`, the separators at its front and the blanks at its end
aside. -/
def EndsInClose (segment : List Char) : Prop :=
  ['*', '/'] <:+ Text.dropBlanksEnd (segment.dropWhile isCommentSeparator)

/-- What is left out at the end: blanks, or a close with the blanks around it. The latter is so just
if a close ends what follows the keyword, and the keyword is the last one. -/
inductive IsTrail (isLast : Prop) (segment : List Char) : List Char → Prop
  | close {before after : List Char} (last : isLast) (closed : EndsInClose segment)
      (blankBefore : ∀ c ∈ before, Text.isBlank c) (blankAfter : ∀ c ∈ after, Text.isBlank c) :
      IsTrail isLast segment (before ++ ['*', '/'] ++ after)
  | blanks {trail : List Char} (unclosed : ¬ (isLast ∧ EndsInClose segment))
      (blank : ∀ c ∈ trail, Text.isBlank c) : IsTrail isLast segment trail

/-- The text of a finding, cut from what follows its keyword. -/
structure IsTextOf (isLast : Prop) (segment text : List Char) : Prop where
  parts : ∃ lead trail, segment = lead ++ text ++ trail ∧
    (∀ c ∈ lead, c = ':' ∨ c = '-' ∨ Text.isBlank c) ∧ IsTrail isLast segment trail
  feedless : '\n' ∉ text
  opens : ∀ c, text.head? = some c → c ≠ ':' ∧ c ≠ '-' ∧ Text.isBlank c = false
  ends : ∀ c, text.getLast? = some c → Text.isBlank c = false

theorem isCommentSeparator_iff (c : Char) :
    isCommentSeparator c ↔ c = ':' ∨ c = '-' ∨ Text.isBlank c := by
  simp [isCommentSeparator, or_assoc]

/-- A text cut short at the end, separators at the front dropped before. -/
theorem isTextOf_of_dropWhile {segment text trail : List Char} {isLast : Prop}
    (cut : segment.dropWhile isCommentSeparator = text ++ trail) (feedless : '\n' ∉ segment)
    (ends : ∀ c, text.getLast? = some c → Text.isBlank c = false)
    (rest : IsTrail isLast segment trail) : IsTextOf isLast segment text := by
  have whole : segment = segment.takeWhile isCommentSeparator ++ text ++ trail := by
    rw [List.append_assoc, ← cut, List.takeWhile_append_dropWhile]
  refine ⟨⟨segment.takeWhile isCommentSeparator, trail, whole, ?_, rest⟩, ?_, ?_, ends⟩
  · intro c member
    exact (isCommentSeparator_iff c).mp (List.mem_takeWhile_imp member)
  · intro member
    apply feedless
    rw [whole]
    exact List.mem_append_left _ (List.mem_append_right _ member)
  · intro c first
    have stops := List.head?_dropWhile_not isCommentSeparator segment
    rw [cut, List.head?_append, first] at stops
    simpa [isCommentSeparator, and_assoc] using stops

/-- What a keyword says is the rest of its line without separators, blanks and, where the keyword is
the last one, the close. -/
theorem isTextOf_commentText (segment : List Char) (isLast : Bool) :
    IsTextOf isLast (untilFeed segment) (commentText segment isLast) := by
  have feedless := feed_not_mem_untilFeed segment
  obtain ⟨blanks, cut, blank⟩ :=
    Text.exists_blanks_dropBlanksEnd ((untilFeed segment).dropWhile isCommentSeparator)
  by_cases closed : isLast ∧ EndsInClose (untilFeed segment)
  · obtain ⟨last, front, close⟩ := closed
    obtain ⟨between, split, gap⟩ := Text.exists_blanks_dropBlanksEnd front
    have said : commentText segment isLast = Text.dropBlanksEnd front := by
      simp only [commentText, last, if_true]
      rw [← close, dropClose_append_close]
    have parts : (untilFeed segment).dropWhile isCommentSeparator =
        Text.dropBlanksEnd front ++ (between ++ ['*', '/'] ++ blanks) := by
      rw [cut, ← close]
      nth_rewrite 1 [split]
      simp only [List.append_assoc]
    rw [said]
    refine isTextOf_of_dropWhile parts feedless ?_ (.close last ⟨front, close⟩ gap blank)
    intro c final
    exact Text.isBlank_getLast?_dropBlanksEnd final
  · have said : commentText segment isLast =
        Text.dropBlanksEnd ((untilFeed segment).dropWhile isCommentSeparator) := by
      simp only [commentText]
      split
      · rename_i last
        exact dropClose_of_not_suffix fun close => closed ⟨last, close⟩
      · rfl
    rw [said]
    refine isTextOf_of_dropWhile cut feedless ?_ (.blanks closed blank)
    intro c final
    exact Text.isBlank_getLast?_dropBlanksEnd final

/-- No separator is a word character. -/
theorem wordAt_of_separator {c : Char} (separator : c = ':' ∨ c = '-' ∨ Text.isBlank c) :
    wordAt (some c) = false := by
  rcases separator with rfl | rfl | blank
  · decide +kernel
  · decide +kernel
  · exact Text.isWord_of_isBlank blank

/-- What is trimmed off the end of a text starts with no word character, so it cuts no word in two.
-/
theorem IsTrail.wordAt_head? {isLast : Prop} {segment trail : List Char}
    (left : IsTrail isLast segment trail) : wordAt trail.head? = false := by
  cases left with
  | @close before after last closed blankBefore blankAfter =>
      cases before with
      | nil =>
          show wordAt (some '*') = false
          decide +kernel
      | cons c before => exact Text.isWord_of_isBlank (blankBefore c List.mem_cons_self)
  | blanks unclosed blank =>
      cases trail with
      | nil => rfl
      | cons c trail => exact Text.isWord_of_isBlank (blank c List.mem_cons_self)

section

variable {text segment : List Char} {hits : List Occurrence} {hit : Occurrence}
  (words : ∀ word ∈ hits, IsWordOf text word) (follows : Follows text hits hit segment)

include words follows

/-- No word reaches over the end of what follows an occurrence. -/
theorem wordAt_end_of_follows (occupied : segment ≠ []) :
    wordAt segment.getLast? = false ∨
      wordAt (text.drop (hit.stop + segment.length)).head? = false := by
  rcases follows.ends with finished | feed | ⟨next, member, -, starts⟩
  · rw [finished, List.drop_length]
    exact .inr rfl
  · rw [List.head?_drop, feed]
    exact .inr (Text.isWord_of_isBlank (by decide))
  · have before := (words next member).before
    have front : text.take next.start = text.take hit.stop ++ segment := by
      rw [starts, List.take_add, ← List.prefix_iff_eq_take.mp follows.located]
    rw [front, List.getLast?_append_of_ne_nil _ occupied] at before
    exact .inl before

/-- A word of the text that is cut from what follows an occurrence is a word of the whole text. -/
theorem isWordOf_of_isTextOf (listed : hit ∈ hits) {isLast : Prop} {said : List Char}
    (cut : IsTextOf isLast segment said) {word : Occurrence} (isWord : IsWordOf said word) :
    ∃ offset, hit.stop ≤ offset ∧ offset < hit.stop + segment.length ∧
      IsWordOf text ⟨offset, word.word⟩ := by
  obtain ⟨lead, trail, rfl, separators, left⟩ := cut.parts
  obtain ⟨behind, located⟩ := follows.located
  have reach := isWord.start_lt_stop.trans_le isWord.stop_le
  have occupied : said ≠ [] := List.length_pos_iff.mp (Nat.zero_lt_of_lt reach)
  have split : text.take hit.stop ++ lead ++ (said ++ (trail ++ behind)) = text := by
    simpa only [List.append_assoc, List.take_append_drop] using
      congrArg (text.take hit.stop ++ ·) located
  have opens : wordAt (text.take hit.stop ++ lead).getLast? = false ∨
      wordAt said.head? = false := by
    cases lead with
    | nil =>
        have after := (words hit listed).after
        rw [← located, List.nil_append, List.append_assoc, List.head?_append_of_ne_nil _ occupied]
          at after
        exact .inr after
    | cons c lead =>
        rw [List.getLast?_append_of_ne_nil _ (List.cons_ne_nil c lead),
          List.getLast?_eq_some_getLast (List.cons_ne_nil c lead)]
        exact .inl (wordAt_of_separator (separators _ (List.getLast_mem _)))
  have closes : wordAt said.getLast? = false ∨ wordAt (trail ++ behind).head? = false := by
    cases trail with
    | nil =>
        have ends := wordAt_end_of_follows words follows (by simp [occupied])
        rwa [List.append_nil, List.getLast?_append_of_ne_nil _ occupied, ← List.drop_drop,
          ← located, List.append_nil, List.drop_left] at ends
    | cons c trail => exact .inr left.wordAt_head?
  have found := isWord.within opens closes
  rw [split] at found
  refine ⟨_, ?_, ?_, found⟩
  · rw [List.length_append, List.length_take_of_le (words hit listed).stop_le]
    omega
  · rw [List.length_append, List.length_take_of_le (words hit listed).stop_le]
    simp only [List.length_append]
    omega

end

/-- The finding at an index belongs to the hit at that index, and its text runs to the hit after it.
-/
theorem exists_split_of_getElem? {line index : Nat} {text : List Char} {hits : List Occurrence}
    {hit : Occurrence} {finding : Finding} (here : hits[index]? = some hit)
    (found : (ofOccurrences line text hits)[index]? = some finding) :
    ∃ before later, hits = before ++ hit :: later ∧ before.length = index ∧
      finding.text.toList =
        commentText (untilNext (text.drop hit.stop) hit.stop later) later.isEmpty := by
  induction hits generalizing index with
  | nil => simp at here
  | cons first later ih =>
      rw [ofOccurrences_cons] at found
      cases index with
      | zero =>
          obtain rfl := Option.some.inj here
          obtain rfl := Option.some.inj found
          exact ⟨[], later, rfl, rfl, String.toList_ofList⟩
      | succ index =>
          obtain ⟨before, rest, rfl, length, said⟩ := ih here found
          exact ⟨first :: before, rest, rfl, congrArg Nat.succ length, said⟩

section

variable {keywords : Keywords} (areWords : keywords.AreWords)

include areWords

/-- The hits of a text are just its words that fold to a keyword. -/
theorem mem_wholeWords_iff (text : List Char) (word : Occurrence) :
    word ∈ wholeWords keywords text ↔ IsWordOf text word ∧
      ∃ spelling ∈ keywords.spellings, Text.sameFolded word.word spelling := by
  rw [areWords.wholeWords_eq, List.mem_filter, mem_words_iff, List.any_eq_true]

/-- The hits of a text come in the order of their places. -/
theorem pairwise_wholeWords (text : List Char) :
    (wholeWords keywords text).Pairwise fun first second => first.start < second.start := by
  rw [areWords.wholeWords_eq]
  exact (pairwise_wordsFrom _ _ _).filter _

/-- Between two keywords there is no other one. -/
theorem wholeWords_eq_nil_of_isTextOf {text segment said : List Char} {hit : Occurrence}
    {isLast : Prop} (member : hit ∈ wholeWords keywords text)
    (follows : Follows text (wholeWords keywords text) hit segment)
    (cut : IsTextOf isLast segment said) : wholeWords keywords said = [] := by
  have words (word : Occurrence) (listed : word ∈ wholeWords keywords text) : IsWordOf text word :=
    ((mem_wholeWords_iff areWords text word).mp listed).1
  rw [List.eq_nil_iff_forall_not_mem]
  intro word listed
  obtain ⟨isWord, agrees⟩ := (mem_wholeWords_iff areWords said word).mp listed
  obtain ⟨offset, behind, inside, also⟩ := isWordOf_of_isTextOf words follows member cut isWord
  have starts := (words hit member).start_lt_stop
  have beyond := follows.apart ⟨offset, word.word⟩
    ((mem_wholeWords_iff areWords text _).mpr ⟨also, agrees⟩) (starts.trans_le behind)
  exact Nat.not_lt.mpr beyond inside

end

/-- The occurrences of keywords that are words, and for each of them the finding in the comment, in
the order of the text: its text is what follows the occurrence, without separators at the front,
blanks at the end and, for the last one, a close with the blanks around it. No keyword is found in
the text of a finding. -/
theorem inComment_texts (keywords : Keywords) (areWords : keywords.AreWords) (comment : Comment) :
    ∃ hits : List Occurrence,
      hits.Pairwise (fun first second => first.start < second.start) ∧
      (∀ word, word ∈ hits ↔ IsWordOf comment.text word ∧
        ∃ spelling ∈ keywords.spellings, Text.sameFolded word.word spelling) ∧
      (inComment keywords comment).length = hits.length ∧
      ∀ index hit finding, hits[index]? = some hit →
        (inComment keywords comment)[index]? = some finding →
        ∃ segment, (∀ other, Follows comment.text hits hit other ↔ other = segment) ∧
          IsTextOf (index + 1 = hits.length) segment finding.text.toList ∧
          ∀ line style, inComment keywords ⟨line, style, finding.text.toList⟩ = [] := by
  refine ⟨wholeWords keywords comment.text, pairwise_wholeWords areWords _,
    mem_wholeWords_iff areWords _, ?_, ?_⟩
  · have pairs := congrArg List.length
      (ofOccurrences_map comment.line comment.text (wholeWords keywords comment.text))
    rw [List.length_map, List.length_map] at pairs
    exact pairs
  · intro index hit finding here found
    obtain ⟨before, later, whole, length, said⟩ := exists_split_of_getElem? here found
    have follows := follows_untilNext whole (pairwise_wholeWords areWords _)
      (spread_wholeWords keywords comment.text)
      fun word member => ((mem_wholeWords_iff areWords _ word).mp member).1
    have cut := isTextOf_commentText (untilNext (comment.text.drop hit.stop) hit.stop later)
      later.isEmpty
    have last : (later.isEmpty = true) =
        (index + 1 = (wholeWords keywords comment.text).length) := by
      rw [whole, ← length, List.isEmpty_iff]
      simp
    rw [← said, last] at cut
    refine ⟨_, fun other => ⟨fun also => also.unique follows, fun same => same ▸ follows⟩, cut, ?_⟩
    intro line style
    rw [inComment, wholeWords_eq_nil_of_isTextOf areWords (List.mem_of_getElem? here) follows cut]
    rfl

/-- The separators behind the second keyword and the close at the end are left out, and an inner
close is not. -/
theorem inComment_texts_closed :
    Keywords.default.AreWords ∧
    inComment Keywords.default ⟨3, .block, "/* todo: a */ FIXME -: b - * */ ".toList⟩ =
      [⟨3, "TODO", "a */"⟩, ⟨3, "FIXME", "b - *"⟩] ∧
    (∃ segment, IsTextOf (0 + 1 = 2) segment "a */".toList) ∧
    (∃ segment, IsTextOf (1 + 1 = 2) segment "b - *".toList) ∧
    ∀ line style, inComment Keywords.default ⟨line, style, "b - *".toList⟩ = [] := by
  have areWords : Keywords.default.AreWords := by decide +kernel
  have listed : inComment Keywords.default
      ⟨3, .block, "/* todo: a */ FIXME -: b - * */ ".toList⟩ =
      [⟨3, "TODO", "a */"⟩, ⟨3, "FIXME", "b - *"⟩] := by
    rw [inComment_eq_of_areWords areWords]
    decide +kernel
  obtain ⟨hits, -, -, length, texts⟩ :=
    inComment_texts Keywords.default areWords ⟨3, .block, "/* todo: a */ FIXME -: b - * */ ".toList⟩
  rw [listed] at length texts
  match hits, length with
  | [first, second], _ =>
      obtain ⟨opening, -, kept, -⟩ := texts 0 first _ rfl rfl
      obtain ⟨closing, -, cut, silent⟩ := texts 1 second _ rfl rfl
      exact ⟨areWords, listed, ⟨opening, kept⟩, ⟨closing, cut⟩, silent⟩

end MarkerReport.Finding
