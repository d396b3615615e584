import Mathlib.Data.List.DropRight
import Mathlib.Data.List.Infix
import MarkerReport.Proofs.Comment.Grammar
import MarkerReport.Proofs.Marker.Occurrences
import MarkerReport.Settings

/-! # Closes of blocks in findings

The first `*/` of a block behind its opener ends it. A keyword takes neither of these characters, so
it lies between the opener and that `*/`, and what an occurrence says is cut before it: at the next
occurrence, at the end of the line, or, for the last occurrence, by dropping the `*/` itself. Hence
no finding in a block holds a `*/` (`MarkerReport.Finding.close_not_mem_block`).
-/

namespace MarkerReport.Comment

/-- What comes before the end of a text that ends with its first close has no close. -/
theorem EndsAtClose.not_infix {part rest : List Char} (ends : EndsAtClose (part ++ rest))
    (proper : rest ≠ []) : ¬ ['*', '/'] <:+: part := by
  rintro ⟨front, behind, rfl⟩
  have leads : ['*', '/'] <+: (front ++ ['*', '/'] ++ behind ++ rest).drop front.length := by
    simp
  have last := ends.first front.length leads
  have positive := List.length_pos_iff.mpr proper
  simp only [List.length_append, List.length_cons, List.length_nil] at last
  omega

/-- The rest of a block behind its opening ends at its close and has no other close inside. -/
theorem IsBlock.endsAtClose_drop {text : List Char} (block : IsBlock text) {offset : Nat}
    (opened : 2 ≤ offset) (inside : offset + 2 ≤ text.length) :
    EndsAtClose (text.drop offset) where
  closes := by
    refine List.suffix_of_suffix_length_le block.closes (List.drop_suffix offset text) ?_
    simp only [List.length_drop, List.length_cons, List.length_nil]
    omega
  first := by
    intro later leads
    rw [List.drop_drop] at leads
    have last := block.first (offset + later) (by omega) leads
    rw [List.length_drop]
    omega

/-- A part of a block without `*` and `/` lies between its opener and its close. -/
theorem IsBlock.between {text word : List Char} {start : Nat} (block : IsBlock text)
    (located : word <+: text.drop start) (nonempty : word ≠ [])
    (plain : ∀ c ∈ word, c ≠ '*' ∧ c ≠ '/') :
    2 ≤ start ∧ start + word.length + 2 ≤ text.length := by
  obtain ⟨behind, split⟩ := located
  have reach (index : Nat) (within : index < word.length) :
      text[start + index]? = some word[index] := by
    rw [← List.getElem?_drop, ← split, List.getElem?_append_left within,
      List.getElem?_eq_getElem within]
  have positive := List.length_pos_iff.mpr nonempty
  constructor
  · have first := reach 0 positive
    have free := plain word[0] (List.getElem_mem positive)
    obtain ⟨rest, rfl⟩ := block.opens
    by_contra early
    obtain rfl | rfl : start = 0 ∨ start = 1 := by omega
    · exact free.2 (by simpa using first.symm)
    · exact free.1 (by simpa using first.symm)
  · have last := reach (word.length - 1) (by omega)
    have free := plain _ (List.getElem_mem (show word.length - 1 < word.length by omega))
    have within := congrArg List.length split
    obtain ⟨front, rfl⟩ := block.closes
    by_contra late
    simp only [List.length_append, List.length_drop, List.length_cons, List.length_nil]
      at within late
    rw [List.getElem?_append_right (by omega)] at last
    obtain here | here : start + (word.length - 1) - front.length = 0 ∨
        start + (word.length - 1) - front.length = 1 := by omega
    · rw [here] at last
      exact free.1 (by simpa using last.symm)
    · rw [here] at last
      exact free.2 (by simpa using last.symm)

end MarkerReport.Comment

namespace MarkerReport.Finding

open Comment Occurrence

theorem isPrefix_dropBlanksEnd (cs : List Char) : Text.dropBlanksEnd cs <+: cs :=
  List.rdropWhile_prefix Text.isBlank cs

/-- Of a record that ends with the close, the close goes and the blanks before it. -/
theorem dropClose_append_close (cs : List Char) :
    dropClose (cs ++ ['*', '/']) = Text.dropBlanksEnd cs := by
  rw [dropClose, List.reverse_append]
  rfl

/-- A record that does not end with the close keeps its whole text. -/
theorem dropClose_of_not_suffix {cs : List Char} (unclosed : ¬ ['*', '/'] <:+ cs) :
    dropClose cs = cs := by
  unfold dropClose
  split
  · rename_i before reversed
    exact (unclosed ⟨before.reverse, by simpa using congrArg List.reverse reversed.symm⟩).elim
  · rfl

theorem isPrefix_dropClose (cs : List Char) : dropClose cs <+: cs := by
  by_cases closed : ['*', '/'] <:+ cs
  · obtain ⟨front, rfl⟩ := closed
    rw [dropClose_append_close]
    exact (isPrefix_dropBlanksEnd front).trans (List.prefix_append front _)
  · rw [dropClose_of_not_suffix closed]

/-- What a keyword says is found on the rest of its line. -/
theorem isInfix_commentText (segment : List Char) (isLast : Bool) :
    commentText segment isLast <:+: untilFeed segment := by
  have body : Text.dropBlanksEnd ((untilFeed segment).dropWhile isCommentSeparator) <:+:
      untilFeed segment :=
    (isPrefix_dropBlanksEnd _).isInfix.trans (List.dropWhile_suffix _).isInfix
  unfold commentText
  split
  · exact (isPrefix_dropClose _).isInfix.trans body
  · exact body

/-- Neither `*` nor `/` is a separator or a blank, so a close is dropped with the blanks before it
and nothing else. -/
theorem commentText_append_close {front : List Char} (feedless : '\n' ∉ front) :
    commentText (front ++ ['*', '/']) true =
      Text.dropBlanksEnd (front.dropWhile isCommentSeparator) := by
  have line : untilFeed (front ++ ['*', '/']) = front ++ ['*', '/'] :=
    untilFeed_append_of_feedless feedless ['*', '/']
  have separated : (front ++ ['*', '/']).dropWhile isCommentSeparator =
      front.dropWhile isCommentSeparator ++ ['*', '/'] := by
    rw [List.dropWhile_append]
    split
    · rename_i empty
      rw [List.isEmpty_iff.mp empty]
      rfl
    · rfl
  have trimmed (cs : List Char) :
      Text.dropBlanksEnd (cs ++ ['*', '/']) = cs ++ ['*', '/'] := by
    rw [List.append_cons]
    exact List.rdropWhile_concat_neg Text.isBlank _ '/' (by decide)
  rw [commentText, line, separated, trimmed, dropClose_append_close]
  rfl

/-- The last keyword of a block loses the close, or says nothing of the line that the close is
on. -/
theorem close_not_infix_last {segment : List Char} (ends : EndsAtClose segment) :
    ¬ ['*', '/'] <:+: commentText segment true := by
  by_cases feed : '\n' ∈ segment
  · have cut : EndsAtClose (untilFeed segment ++ fromFeed segment) := by
      rwa [untilFeed_append_fromFeed]
    have behind : fromFeed segment ≠ [] := by
      intro empty
      have whole := untilFeed_append_fromFeed segment
      have feedless := feed_not_mem_untilFeed segment
      rw [empty, List.append_nil] at whole
      rw [whole] at feedless
      exact feedless feed
    exact fun close => cut.not_infix behind (close.trans (isInfix_commentText segment true))
  · obtain ⟨front, rfl⟩ := ends.closes
    rw [commentText_append_close fun member => feed (List.mem_append_left _ member)]
    have inside : Text.dropBlanksEnd (front.dropWhile isCommentSeparator) <:+: front :=
      (isPrefix_dropBlanksEnd _).isInfix.trans (List.dropWhile_suffix _).isInfix
    exact fun close => ends.not_infix (List.cons_ne_nil _ _) (close.trans inside)

/-- A keyword with another one behind it says nothing of the end of the block. -/
theorem close_not_infix_inner {rest : List Char} (ends : EndsAtClose rest) {length : Nat}
    (short : length < rest.length) (isLast : Bool) :
    ¬ ['*', '/'] <:+: commentText (rest.take length) isLast := by
  have cut : EndsAtClose (rest.take length ++ rest.drop length) := by rwa [List.take_append_drop]
  have behind : rest.drop length ≠ [] := by
    intro empty
    have all := List.drop_eq_nil_iff.mp empty
    omega
  have inside : commentText (rest.take length) isLast <:+: rest.take length :=
    (isInfix_commentText _ isLast).trans (List.takeWhile_prefix _).isInfix
  exact fun close => cut.not_infix behind (close.trans inside)

/-- A spelling of a word marker has no character of the close: neither a star nor a slash folds to a
word character. -/
theorem plain_of_sameFolded {marker : String} (single : Settings.isSingleWord marker)
    {word : List Char} (same : Text.sameFolded word marker.toList) :
    word ≠ [] ∧ ∀ c ∈ word, c ≠ '*' ∧ c ≠ '/' := by
  rw [Settings.isSingleWord, Bool.and_eq_true, List.all_eq_true] at single
  obtain ⟨occupied, characters⟩ := single
  have nonempty : marker.toList ≠ [] := by
    intro empty
    simp [String.toList_eq_nil_iff.mp empty] at occupied
  have star : '*' ∉ marker.toList := fun member => absurd (characters _ member) (by decide)
  have slash : '/' ∉ marker.toList := fun member => absurd (characters _ member) (by decide)
  refine ⟨Text.ne_nil_of_sameFolded same nonempty, fun c member => ⟨?_, ?_⟩⟩
  · rintro rfl
    exact Text.not_mem_of_sameFolded (by decide) same star member
  · rintro rfl
    exact Text.not_mem_of_sameFolded (by decide) same slash member

section

variable {spellings : List (List Char)} {text : List Char} (block : IsBlock text)
  (plain : ∀ spelling ∈ spellings, ∀ word, Text.sameFolded word spelling →
    word ≠ [] ∧ ∀ c ∈ word, c ≠ '*' ∧ c ≠ '/')

include block plain

/-- The occurrences in a block lie between its opener and its close. -/
theorem between_of_isPartFrom {offset : Nat} {hit : Occurrence}
    (part : IsPartFrom spellings text offset hit) :
    2 ≤ hit.start ∧ hit.stop + 2 ≤ text.length := by
  obtain ⟨spelling, member, same⟩ := part.spelled
  obtain ⟨nonempty, free⟩ := plain spelling member hit.word same
  exact block.between part.located nonempty free

/-- Each occurrence but the last is cut at the next one, which lies before the close. -/
theorem close_not_infix_ofOccurrences {offset line : Nat} {hits : List Occurrence}
    (spread : Spread spellings text offset hits) :
    ∀ finding ∈ ofOccurrences line text hits, ¬ ['*', '/'] <:+: finding.text.toList := by
  induction spread with
  | nil => simp [ofOccurrences]
  | @cons offset hit later part rest ih =>
      obtain ⟨opened, closed⟩ := between_of_isPartFrom block plain part
      have ends : EndsAtClose (text.drop hit.stop) :=
        block.endsAtClose_drop (opened.trans (Nat.le_add_right _ _)) closed
      cases later with
      | nil =>
          intro finding member
          obtain rfl := List.mem_singleton.mp member
          rw [ofWord, String.toList_ofList]
          exact close_not_infix_last ends
      | cons next later =>
          intro finding member
          rcases List.mem_cons.mp member with rfl | behind
          · rw [ofWord, String.toList_ofList]
            refine close_not_infix_inner ends ?_ false
            cases rest with
            | cons nextPart _ =>
                have before : next.start ≤ next.stop := Nat.le_add_right _ _
                have reach := (between_of_isPartFrom block plain nextPart).2
                have order := nextPart.reached
                rw [List.length_drop]
                omega
          · exact ih finding behind

end

/-- No finding in a block comment of a source holds a `*/`, whatever the keywords of valid
settings. -/
theorem close_not_mem_block (settings : Settings) (valid : settings.validate = .ok ())
    (keywords : Keywords) (accepted : settings.keywords = .ok keywords) (source : List Char)
    (comment : Comment) (member : comment ∈ Comment.scan source)
    (block : comment.style = .block) :
    ∀ finding ∈ inComment keywords comment, ¬ ['*', '/'] <:+: finding.text.toList := by
  obtain ⟨after, isComment⟩ := exists_isComment_of_mem_scan member
  rw [block] at isComment
  obtain ⟨-, single⟩ :=
    (settings.validateMarkers_eq_ok_iff).mp (Settings.validateMarkers_of_validate valid)
  refine close_not_infix_ofOccurrences isComment ?_ (spread_wholeWords keywords comment.text)
  intro spelling listed word same
  obtain ⟨marker, configured, rfl⟩ := List.mem_map.mp listed
  rw [Settings.words_of_keywords accepted] at configured
  exact plain_of_sameFolded (single marker configured) same

/-- The `/` behind the opener does not close the block, and a `*` before the close is kept. -/
theorem close_not_mem_block_reopened :
    Settings.default.validate = .ok () ∧ Settings.default.keywords = .ok Keywords.default ∧
    ⟨1, .block, "/*/ TODO a\n * fixme: b **/".toList⟩ ∈
      Comment.scan "/*/ TODO a\n * fixme: b **/ c */".toList ∧
    ∀ finding ∈ inComment Keywords.default ⟨1, .block, "/*/ TODO a\n * fixme: b **/".toList⟩,
      ¬ ['*', '/'] <:+: finding.text.toList := by
  have valid : Settings.default.validate = .ok () := by decide +kernel
  have accepted : Settings.default.keywords = .ok Keywords.default := by decide +kernel
  have member : ⟨1, .block, "/*/ TODO a\n * fixme: b **/".toList⟩ ∈
      Comment.scan "/*/ TODO a\n * fixme: b **/ c */".toList := by decide +kernel
  exact ⟨valid, accepted, member,
    close_not_mem_block Settings.default valid Keywords.default accepted _ _ member rfl⟩

end MarkerReport.Finding
