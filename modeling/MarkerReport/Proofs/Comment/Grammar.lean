import Mathlib.Data.List.Infix
import Mathlib.Data.List.TakeWhile
import MarkerReport.Comment.Scan

/-! # The grammar of comments

A comment is described here without saying how it is found. A block runs from `/*` to the first `*/`
behind it; the other three styles run from their opener to the end of the line. A decomposition of a
text cuts it into comments and gaps, such that no comment opens anywhere in a gap.

Every text has exactly one decomposition, and the scan computes it
(`MarkerReport.Comment.decomposes_iff_scan`).
-/

namespace MarkerReport.Comment

/-- A text that ends with its first `*/`. -/
structure EndsAtClose (text : List Char) : Prop where
  closes : ['*', '/'] <:+ text
  first : ∀ offset, ['*', '/'] <+: text.drop offset → offset + 2 = text.length

/-- A block comment: its close is the first one at or after offset two. -/
structure IsBlock (text : List Char) : Prop where
  opens : ['/', '*'] <+: text
  closes : ['*', '/'] <:+ text
  long : 4 ≤ text.length
  first : ∀ offset, 2 ≤ offset → ['*', '/'] <+: text.drop offset → offset + 2 = text.length

/-- A comment that takes the rest of a line: `after` is the text behind it. -/
structure IsRestOfLine (style : CommentStyle) (text after : List Char) : Prop where
  opens : style.opener.toList <+: text
  feedless : '\n' ∉ text
  ends : after = [] ∨ after.head? = some '\n'

/-- A comment of the given style, with the text behind it. -/
def IsComment : CommentStyle → List Char → List Char → Prop
  | .block, text, _ => IsBlock text
  | style, text, after => IsRestOfLine style text after

/-- A comment opens at the front of the text. -/
def Opens (cs : List Char) : Prop :=
  ∃ style text after, cs = text ++ after ∧ IsComment style text after

/-- A cut of a text into gaps, in which no comment opens, and comments between them, given by their
styles and texts in order. -/
inductive Decomposes : List Char → List (CommentStyle × List Char) → Prop
  | last (gap : List Char) (closed : ∀ offset < gap.length, ¬ Opens (gap.drop offset)) :
      Decomposes gap []
  | comment (gap : List Char) {text after : List Char} {style : CommentStyle}
      {later : List (CommentStyle × List Char)}
      (closed : ∀ offset < gap.length, ¬ Opens ((gap ++ (text ++ after)).drop offset))
      (comment : IsComment style text after) (rest : Decomposes after later) :
      Decomposes (gap ++ (text ++ after)) ((style, text) :: later)

/-- The close alone ends at its first close. -/
theorem endsAtClose_close : EndsAtClose ['*', '/'] where
  closes := List.suffix_rfl
  first := by
    intro offset leads
    have bound := leads.length_le
    simp only [List.length_drop, List.length_cons, List.length_nil] at bound ⊢
    omega

/-- A character in front keeps the first close where it is, unless it forms an earlier one. -/
theorem EndsAtClose.cons {c : Char} {text : List Char} (ends : EndsAtClose text)
    (apart : ¬ ['*', '/'] <+: c :: text) : EndsAtClose (c :: text) where
  closes := ends.closes.trans (List.suffix_cons c text)
  first := by
    intro offset leads
    cases offset with
    | zero => exact (apart leads).elim
    | succ offset =>
        have last := ends.first offset leads
        simp only [List.length_cons]
        omega

/-- What ends at its first close does so from its second character on, while the close is within. -/
theorem EndsAtClose.of_cons {c : Char} {text : List Char} (ends : EndsAtClose (c :: text))
    (long : 2 ≤ text.length) : EndsAtClose text where
  closes := List.suffix_of_suffix_length_le ends.closes (List.suffix_cons c text) long
  first := by
    intro offset leads
    have last := ends.first (offset + 1) leads
    simp only [List.length_cons] at last
    omega

/-- The part up to the close ends at its first close. -/
theorem EndsAtClose.of_splitAfterClose {cs inside after : List Char}
    (split : splitAfterClose cs = some (inside, after)) : EndsAtClose inside := by
  fun_induction splitAfterClose cs generalizing inside with
  | case1 rest =>
      obtain ⟨rfl, rfl⟩ := Prod.mk.inj (Option.some.inj split)
      exact endsAtClose_close
  | case2 c rest other inner innerAfter found ih =>
      obtain ⟨rfl, rfl⟩ := Prod.mk.inj (Option.some.inj split)
      refine (ih found).cons ?_
      rintro ⟨tail, leads⟩
      have whole := splitAfterClose_append found
      obtain ⟨rfl, rfl⟩ : '*' = c ∧ '/' :: tail = inner := by simpa using leads
      exact other (tail ++ innerAfter) rfl whole
  | case3 => simp at split
  | case4 => simp at split

/-- Where no close leads, the first one is looked for behind the first character. -/
theorem splitAfterClose_cons {c : Char} {rest : List Char} (apart : ¬ ['*', '/'] <+: c :: rest) :
    splitAfterClose (c :: rest) =
      (splitAfterClose rest).map fun split => (c :: split.1, split.2) := by
  have row := splitAfterClose.eq_2 c rest fun tail first second =>
    apart ⟨tail, by rw [first, second]; rfl⟩
  rw [row]
  cases splitAfterClose rest <;> rfl

/-- A text is not split just if there is no close in it. -/
theorem splitAfterClose_eq_none_iff (cs : List Char) :
    splitAfterClose cs = none ↔ ¬ ['*', '/'] <:+: cs := by
  induction cs with
  | nil => simp [splitAfterClose]
  | cons c rest ih =>
      by_cases leads : ['*', '/'] <+: c :: rest
      · obtain ⟨tail, split⟩ := leads
        rw [← split]
        simpa [splitAfterClose] using (List.prefix_append ['*', '/'] tail).isInfix
      · rw [splitAfterClose_cons leads, Option.map_eq_none_iff, ih, List.infix_cons_iff]
        simp only [leads, false_or]

/-- A text that ends with its first close is what is split off, whatever follows it. -/
theorem EndsAtClose.split {inside : List Char} (ends : EndsAtClose inside) (after : List Char) :
    splitAfterClose (inside ++ after) = some (inside, after) := by
  induction inside with
  | nil => simpa using ends.closes.length_le
  | cons c inside ih =>
      by_cases leads : ['*', '/'] <+: c :: inside
      · have here := ends.first 0 leads
        obtain ⟨tail, split⟩ := leads
        obtain ⟨rfl, rfl⟩ : '*' = c ∧ '/' :: tail = inside := by simpa using split
        have empty : tail = [] := List.length_eq_zero_iff.mp (by simpa using here)
        subst empty
        rfl
      · have long : 2 ≤ inside.length := by
          by_contra short
          have same : ['*', '/'] = c :: inside := ends.closes.eq_of_length_le (by simp; omega)
          exact leads (same ▸ List.prefix_rfl)
        have apart : ¬ ['*', '/'] <+: c :: (inside ++ after) := by
          intro extended
          refine leads (List.prefix_of_prefix_length_le extended ?_ (by simp; omega))
          exact List.prefix_append (c :: inside) after
        rw [List.cons_append, splitAfterClose_cons apart, ih (ends.of_cons long)]
        rfl

/-- A block comment is its opener and a text that ends at its first close. -/
theorem isBlock_iff (text : List Char) :
    IsBlock text ↔ ∃ inside, text = '/' :: '*' :: inside ∧ EndsAtClose inside := by
  constructor
  · rintro ⟨⟨inside, rfl⟩, closes, long, first⟩
    have inner : 2 ≤ inside.length := by simpa using long
    refine ⟨inside, rfl, ?_, ?_⟩
    · exact List.suffix_of_suffix_length_le closes (List.suffix_append ['/', '*'] inside) inner
    · intro offset leads
      have last := first (offset + 2) (by omega) leads
      simp only [List.length_append, List.length_cons, List.length_nil] at last
      omega
  · rintro ⟨inside, rfl, ends⟩
    have inner := ends.closes.length_le
    refine ⟨⟨inside, rfl⟩, ?_, by simpa using inner, ?_⟩
    · exact ends.closes.trans (List.suffix_append ['/', '*'] inside)
    · intro offset opened leads
      obtain ⟨offset, rfl⟩ := Nat.exists_eq_add_of_le' opened
      have last := ends.first offset leads
      simp only [List.length_cons]
      omega

/-- There is no line feed in a line. -/
theorem feed_not_mem_untilFeed (cs : List Char) : '\n' ∉ untilFeed cs := by
  intro member
  simpa using List.mem_takeWhile_imp member

/-- Behind a line there is a line feed or nothing. -/
theorem fromFeed_ends (cs : List Char) : fromFeed cs = [] ∨ (fromFeed cs).head? = some '\n' := by
  cases tail : fromFeed cs with
  | nil => exact .inl rfl
  | cons c rest =>
      have stops := List.head?_dropWhile_not (· != '\n') cs
      rw [← fromFeed, tail] at stops
      exact .inr (by simpa using stops)

/-- A text without line feeds belongs to the line of what follows it. -/
theorem untilFeed_append_of_feedless {before : List Char} (feedless : '\n' ∉ before)
    (after : List Char) : untilFeed (before ++ after) = before ++ untilFeed after := by
  apply List.takeWhile_append_of_pos
  intro c member
  exact bne_iff_ne.mpr fun feed => feedless (feed ▸ member)

/-- A text without line feeds is the whole line if the line ends behind it. -/
theorem untilFeed_append {text after : List Char} (feedless : '\n' ∉ text)
    (ends : after = [] ∨ after.head? = some '\n') : untilFeed (text ++ after) = text := by
  have stops : untilFeed after = [] := by
    cases after with
    | nil => rfl
    | cons c rest =>
        obtain rfl : c = '\n' := by simpa using ends
        rfl
  rw [untilFeed_append_of_feedless feedless, stops, List.append_nil]

/-- What is behind a text without line feeds is what is left of its line, if the line ends there. -/
theorem fromFeed_append {text after : List Char} (feedless : '\n' ∉ text)
    (ends : after = [] ∨ after.head? = some '\n') : fromFeed (text ++ after) = after := by
  have whole := untilFeed_append_fromFeed (text ++ after)
  rw [untilFeed_append feedless ends] at whole
  exact List.append_cancel_left whole

/-- The style of a comment is told by its opener. -/
theorem ofText_opener_append (style : CommentStyle) (body : List Char) :
    .ofText (style.opener.toList ++ body) = style := by
  cases style <;> rfl

/-- A block comment opens a text that starts with its opener just if there is a close behind. -/
theorem opening?_block (rest : List Char) :
    opening? (CommentStyle.block.opener.toList ++ rest) =
      (splitAfterClose rest).map fun split =>
        (CommentStyle.block.opener.toList ++ split.1, split.2) := by
  change opening? ('/' :: '*' :: rest) = _
  rw [opening?]
  cases splitAfterClose rest <;> rfl

/-- The three other styles differ in their openers only. -/
theorem opening?_line {style : CommentStyle} (line : style ≠ .block) (rest : List Char) :
    opening? (style.opener.toList ++ rest) =
      some (style.opener.toList ++ untilFeed rest, fromFeed rest) := by
  cases style with
  | block => exact (line rfl).elim
  | doubleSlash => rfl
  | hash => rfl
  | doubleDash => rfl

/-- Where a comment opens, the text starts with the opener of a style. -/
theorem exists_opener_of_opening? {cs text after : List Char}
    (opened : opening? cs = some (text, after)) :
    ∃ (style : CommentStyle) (rest : List Char), cs = style.opener.toList ++ rest := by
  unfold opening? at opened
  split at opened
  · exact ⟨.block, _, rfl⟩
  · exact ⟨.doubleSlash, _, rfl⟩
  · exact ⟨.hash, _, rfl⟩
  · exact ⟨.doubleDash, _, rfl⟩
  · simp at opened

/-- A comment that is no block goes on to the end of its line. -/
theorem isComment_line {style : CommentStyle} (line : style ≠ .block) (text after : List Char) :
    IsComment style text after ↔ IsRestOfLine style text after := by
  cases style with
  | block => exact (line rfl).elim
  | doubleSlash => rfl
  | hash => rfl
  | doubleDash => rfl

/-- No opener holds a line feed. -/
theorem feed_not_mem_opener (style : CommentStyle) : '\n' ∉ style.opener.toList := by
  cases style <;> decide

/-- What the scan takes at an opening is a comment of the grammar. -/
theorem isComment_of_opening? {cs text after : List Char}
    (opened : opening? cs = some (text, after)) : IsComment (.ofText text) text after := by
  obtain ⟨style, rest, rfl⟩ := exists_opener_of_opening? opened
  by_cases block : style = .block
  · subst block
    rw [opening?_block, Option.map_eq_some_iff] at opened
    obtain ⟨⟨inside, behind⟩, split, same⟩ := opened
    obtain ⟨rfl, rfl⟩ := Prod.mk.inj same
    rw [ofText_opener_append]
    exact (isBlock_iff _).mpr ⟨inside, rfl, .of_splitAfterClose split⟩
  · rw [opening?_line block] at opened
    obtain ⟨rfl, rfl⟩ := Prod.mk.inj (Option.some.inj opened)
    rw [ofText_opener_append, isComment_line block]
    refine ⟨List.prefix_append _ _, ?_, fromFeed_ends rest⟩
    rw [List.mem_append, not_or]
    exact ⟨feed_not_mem_opener style, feed_not_mem_untilFeed rest⟩

/-- The scan takes every comment of the grammar whole, and tells its style from its text. -/
theorem opening?_of_isComment {style : CommentStyle} {text after : List Char}
    (comment : IsComment style text after) :
    opening? (text ++ after) = some (text, after) ∧ .ofText text = style := by
  by_cases block : style = .block
  · subst block
    obtain ⟨inside, rfl, ends⟩ := (isBlock_iff text).mp comment
    have opened := opening?_block (inside ++ after)
    rw [ends.split after] at opened
    exact ⟨opened, rfl⟩
  · obtain ⟨⟨body, rfl⟩, feedless, ends⟩ := (isComment_line block text after).mp comment
    have inner : '\n' ∉ body := fun member => feedless (List.mem_append_right _ member)
    rw [List.append_assoc, opening?_line block, untilFeed_append inner ends,
      fromFeed_append inner ends]
    exact ⟨rfl, ofText_opener_append style body⟩

/-- The tokenizer sees no comment just where none opens. -/
theorem opening?_eq_none_iff (cs : List Char) : opening? cs = none ↔ ¬ Opens cs := by
  constructor
  · rintro closed ⟨style, text, after, rfl, comment⟩
    rw [(opening?_of_isComment comment).1] at closed
    exact Option.some_ne_none _ closed
  · intro closed
    cases opened : opening? cs with
    | none => rfl
    | some parts =>
        obtain ⟨text, after⟩ := parts
        exact (closed
          ⟨_, text, after, (opening?_append opened).2, isComment_of_opening? opened⟩).elim

/-- A block that is opened is a comment exactly if it is closed somewhere. -/
theorem opens_block_iff (rest : List Char) :
    Opens ('/' :: '*' :: rest) ↔ ['*', '/'] <:+: rest := by
  have opened := opening?_block rest
  have unclosed : opening? ('/' :: '*' :: rest) = none ↔ splitAfterClose rest = none := by
    exact opened ▸ Option.map_eq_none_iff
  rw [← not_iff_not, ← opening?_eq_none_iff, unclosed, splitAfterClose_eq_none_iff]

/-- A character at which no comment opens lengthens the first gap. -/
theorem Decomposes.cons {c : Char} {rest : List Char}
    {comments : List (CommentStyle × List Char)} (decomposed : Decomposes rest comments)
    (closed : ¬ Opens (c :: rest)) : Decomposes (c :: rest) comments := by
  cases decomposed with
  | last _ gapClosed =>
      refine .last _ fun offset bound => ?_
      cases offset with
      | zero => exact closed
      | succ offset => exact gapClosed offset (by simpa using bound)
  | comment gap gapClosed comment rest =>
      refine .comment (c :: gap) (fun offset bound => ?_) comment rest
      cases offset with
      | zero => exact closed
      | succ offset => exact gapClosed offset (by simpa using bound)

/-- The comments found from a cursor on decompose the rest of the text. -/
theorem decomposes_run (cursor : Cursor) :
    Decomposes cursor.rest (cursor.run.map fun comment => (comment.style, comment.text)) := by
  induction remaining : cursor.rest.length using Nat.strong_induction_on generalizing cursor with
  | _ remaining ih =>
      cases opened : opening? cursor.rest with
      | some parts =>
          obtain ⟨text, after⟩ := parts
          obtain ⟨-, whole⟩ := opening?_append opened
          have shorter := Cursor.length_rest_lt_of_step (Cursor.step_of_opening? opened)
          have later := ih _ (remaining ▸ shorter) (cursor.behind text after) rfl
          rw [Cursor.run_of_opening? opened, whole]
          exact .comment [] (by simp) (isComment_of_opening? opened) later
      | none =>
          cases here : cursor.rest with
          | nil =>
              rw [Cursor.run_of_end here]
              exact .last [] (by simp)
          | cons c rest =>
              rw [here] at opened
              have shorter := Cursor.length_rest_lt_of_step (Cursor.step_of_closed here opened)
              have later := ih _ (remaining ▸ shorter) (cursor.skip c rest) rfl
              rw [Cursor.run_of_closed here opened]
              exact later.cons ((opening?_eq_none_iff _).mp opened)

/-- A gap is passed over character by character. -/
theorem run_of_gap (cursor : Cursor) (gap rest : List Char) (here : cursor.rest = gap ++ rest)
    (closed : ∀ offset < gap.length, ¬ Opens ((gap ++ rest).drop offset)) :
    cursor.run = (cursor.behind gap rest).run := by
  induction gap generalizing cursor with
  | nil =>
      have same : cursor.behind [] rest = cursor := by
        cases cursor
        simp_all [Cursor.behind, Text.countFeeds]
      rw [same]
  | cons c gap ih =>
      rw [List.cons_append] at here
      have first : ¬ Opens (c :: (gap ++ rest)) := closed 0 (by simp)
      have later := ih (cursor.skip c (gap ++ rest)) rfl fun offset bound =>
        closed (offset + 1) (by simpa using bound)
      rw [Cursor.run_of_closed here ((opening?_eq_none_iff _).mpr first), later,
        Cursor.skip_eq_behind, Cursor.behind_behind, List.singleton_append]

/-- The scan finds the comments of every decomposition, in order. -/
theorem Decomposes.run_eq {source : List Char} {comments : List (CommentStyle × List Char)}
    (decomposed : Decomposes source comments) (cursor : Cursor) (here : cursor.rest = source) :
    (cursor.run.map fun comment => (comment.style, comment.text)) = comments := by
  induction decomposed generalizing cursor with
  | last gap closed =>
      rw [run_of_gap cursor gap [] (by rw [here, List.append_nil]) (by simpa using closed),
        Cursor.run_of_end rfl, List.map_nil]
  | @comment gap text after style later closed comment rest ih =>
      obtain ⟨opened, styled⟩ := opening?_of_isComment comment
      have first : opening? (cursor.behind gap (text ++ after)).rest = some (text, after) := opened
      rw [run_of_gap cursor gap (text ++ after) here closed, Cursor.run_of_opening? first,
        List.map_cons, ih _ rfl, styled]

/-- Each comment of a decomposition is a comment in the place where it stands. -/
theorem Decomposes.exists_isComment {source text : List Char} {style : CommentStyle}
    {comments : List (CommentStyle × List Char)} (decomposed : Decomposes source comments)
    (member : (style, text) ∈ comments) : ∃ after, IsComment style text after := by
  induction decomposed with
  | last => simp at member
  | comment gap closed comment rest ih =>
      rcases List.mem_cons.mp member with same | later
      · obtain ⟨rfl, rfl⟩ := Prod.mk.inj same
        exact ⟨_, comment⟩
      · exact ih later

/-- Each comment that the scan finds is a comment in the place where it stands. -/
theorem exists_isComment_of_mem_scan {source : List Char} {comment : Comment}
    (member : comment ∈ scan source) : ∃ after, IsComment comment.style comment.text after :=
  (decomposes_run (.start source)).exists_isComment (List.mem_map_of_mem member)

/-- A single line that a `#` opens is one comment. -/
theorem scan_of_hash {body : List Char} (feedless : '\n' ∉ body) :
    scan ('#' :: body) = [⟨1, .hash, '#' :: body⟩] := by
  have isComment : IsComment .hash ('#' :: body) [] :=
    ⟨⟨body, rfl⟩, List.not_mem_cons_of_ne_of_not_mem (by decide) feedless, .inl rfl⟩
  have opened := (opening?_of_isComment isComment).1
  rw [List.append_nil] at opened
  rw [scan, Cursor.run_of_opening? opened, Cursor.run_of_end rfl]
  rfl

/-- The comments of a text are its only decomposition: every comment is found, and none is found
twice. A block that is opened in a gap is never closed, and looking for comments only where one of
`/`, `#` and `-` stands finds the same as looking everywhere. -/
theorem decomposes_iff_scan (source : List Char) :
    (∀ comments, Decomposes source comments ↔
      comments = (scan source).map fun comment => (comment.style, comment.text)) ∧
    (∀ rest, Opens ('/' :: '*' :: rest) ↔ ['*', '/'] <:+: rest) ∧
    ∀ c rest, (if mayOpen c then opening? (c :: rest) else none) = opening? (c :: rest) := by
  refine ⟨fun comments => ⟨fun decomposed => ?_, ?_⟩, opens_block_iff, fun c rest => ?_⟩
  · exact (decomposed.run_eq (.start source) rfl).symm
  · rintro rfl
    exact decomposes_run (.start source)
  · cases opened : opening? (c :: rest) with
    | none => exact ite_self none
    | some parts => rw [mayOpen_of_opening? opened, if_pos rfl]

end MarkerReport.Comment
