import Mathlib.Data.List.Infix
import MarkerReport.Proofs.Comment.Grammar

/-! # Line numbers of comments

A scan carries its line along: it is advanced behind a line feed that is passed over, and by the
line feeds inside a comment. At every step the line is one more than the line feeds of the source
that lie before the offset (`MarkerReport.Comment.Reached.standsIn`). So the line of a comment is
the line of the source on which it opens, and a comment that is no block is the tail of that line
(`MarkerReport.Comment.line_eq_of_scan`).
-/

namespace MarkerReport.Comment

/-- The cursors that the scan of a source comes by, each with the comments found before it. -/
inductive Reached (source : List Char) : List Comment → Cursor → Prop
  | start : Reached source [] (.start source)
  | step {earlier : List Comment} {cursor next : Cursor} {found : Option Comment}
      (reached : Reached source earlier cursor) (stepped : cursor.step = some (found, next)) :
      Reached source (earlier ++ found.toList) next

/-- The cursor stands in the source: the rest is the source from its offset on, and its line counts
the line feeds before that. -/
structure Cursor.StandsIn (source : List Char) (cursor : Cursor) : Prop where
  within : cursor.offset ≤ source.length
  rest_eq : cursor.rest = source.drop cursor.offset
  line_eq : cursor.line = 1 + Text.countFeeds (source.take cursor.offset)

/-- The scan starts on the first line, with nothing behind it. -/
theorem Cursor.standsIn_start (source : List Char) : (Cursor.start source).StandsIn source where
  within := Nat.zero_le _
  rest_eq := rfl
  line_eq := rfl

/-- Passing over some text counts just the line feeds of that text. -/
theorem Cursor.StandsIn.behind {source text after : List Char} {cursor : Cursor}
    (stands : cursor.StandsIn source) (here : cursor.rest = text ++ after) :
    (cursor.behind text after).StandsIn source := by
  have rest := stands.rest_eq.symm.trans here
  have bound : text.length ≤ source.length - cursor.offset := by
    rw [← List.length_drop, rest, List.length_append]
    omega
  refine ⟨?_, ?_, ?_⟩
  · have within := stands.within
    simp only [Cursor.behind]
    omega
  · simp only [Cursor.behind]
    rw [← List.drop_drop, rest, List.drop_left]
  · simp only [Cursor.behind]
    rw [List.take_add, rest, List.take_left, stands.line_eq, Text.countFeeds, Text.countFeeds,
      Text.countFeeds, List.count_append, Nat.add_assoc]

/-- A step of the scan keeps the count of the lines that it has passed. -/
theorem Cursor.StandsIn.step {source : List Char} {cursor next : Cursor} {found : Option Comment}
    (stands : cursor.StandsIn source) (stepped : cursor.step = some (found, next)) :
    next.StandsIn source := by
  obtain ⟨text, after, _, here, rfl⟩ := Cursor.exists_behind_of_step stepped
  exact stands.behind here

/-- The line of every cursor that the scan reaches is one more than the line feeds before it. -/
theorem Reached.standsIn {source : List Char} {earlier : List Comment} {cursor : Cursor}
    (reached : Reached source earlier cursor) : cursor.StandsIn source := by
  induction reached with
  | start => exact Cursor.standsIn_start source
  | step _ stepped ih => exact ih.step stepped

/-- Every comment that is still to be found is found at a cursor that is reached. -/
theorem Reached.exists_step {source : List Char} {earlier before later : List Comment}
    {comment : Comment} {cursor : Cursor} (reached : Reached source earlier cursor)
    (run : cursor.run = before ++ comment :: later) :
    ∃ opener next, Reached source (earlier ++ before) opener ∧
      opener.step = some (some comment, next) := by
  fun_induction Cursor.run cursor generalizing earlier before with
  | case1 cursor ended => simp at run
  | case2 cursor next stepped ih =>
      have moved := reached.step stepped
      rw [Option.toList_none, List.append_nil] at moved
      exact ih moved run
  | case3 cursor first next stepped ih =>
      cases before with
      | nil =>
          obtain ⟨rfl, -⟩ := List.cons.inj run
          exact ⟨cursor, next, by rwa [List.append_nil], stepped⟩
      | cons head before =>
          obtain ⟨rfl, rest⟩ := List.cons.inj run
          have found := ih (reached.step stepped) rest
          rwa [Option.toList_some, List.append_assoc, List.singleton_append] at found

/-- The first of the lines of a text goes up to its first line feed. -/
theorem head?_splitAtFeeds (cs : List Char) :
    (Text.splitAtFeeds cs)[0]? = some (untilFeed cs) := by
  induction cs with
  | nil => rfl
  | cons c cs ih =>
      by_cases feed : c = '\n'
      · simp [Text.splitAtFeeds, untilFeed, feed]
      · cases split : Text.splitAtFeeds cs with
        | nil => exact (Text.splitAtFeeds_ne_nil cs split).elim
        | cons piece pieces =>
            obtain rfl : piece = untilFeed cs := by simpa [split] using ih
            rw [Text.splitAtFeeds_cons feed split]
            simp [untilFeed, feed]

/-- A text that is cut in two is cut in the line with the number of line feeds before the cut. -/
theorem exists_line_of_append (before after : List Char) :
    ∃ head, head <:+ before ∧
      (Text.splitAtFeeds (before ++ after))[Text.countFeeds before]? =
        some (head ++ untilFeed after) := by
  -- The lines before the cut are taken off one by one, from the front.
  induction remaining : before.length using Nat.strong_induction_on generalizing before with
  | _ remaining ih =>
      by_cases feed : '\n' ∈ before
      · obtain ⟨first, rest, rfl, -⟩ := List.eq_append_cons_of_mem feed
        rw [List.length_append, List.length_cons] at remaining
        obtain ⟨head, suffix, line⟩ := ih rest.length (by omega) rest rfl
        refine ⟨head, ?_, ?_⟩
        · exact (suffix.trans (List.suffix_cons _ rest)).trans (List.suffix_append first _)
        · have number : Text.countFeeds (first ++ '\n' :: rest) =
              (Text.splitAtFeeds first).length + Text.countFeeds rest := by
            rw [Text.length_splitAtFeeds]
            simp only [Text.countFeeds, List.count_append, List.count_cons_self]
            omega
          rw [List.append_assoc, List.cons_append, Text.splitAtFeeds_append_feed, number,
            List.getElem?_append_right (Nat.le_add_right _ _), Nat.add_sub_cancel_left, line]
      · refine ⟨before, List.suffix_rfl, ?_⟩
        rw [Text.countFeeds, List.count_eq_zero_of_not_mem feed, head?_splitAtFeeds,
          untilFeed_append_of_feedless feed]

/-- The line on which a comment opens starts with its opener there, and a comment that is no block
takes all of it. -/
theorem IsComment.opener_prefix_untilFeed {style : CommentStyle} {text after : List Char}
    (comment : IsComment style text after) :
    style.opener.toList <+: untilFeed (text ++ after) ∧
      (style ≠ .block → untilFeed (text ++ after) = text) := by
  by_cases block : style = .block
  · subst block
    obtain ⟨rest, rfl⟩ := IsBlock.opens comment
    refine ⟨?_, fun other => (other rfl).elim⟩
    have whole := untilFeed_append_of_feedless (feed_not_mem_opener .block) (rest ++ after)
    exact ⟨untilFeed (rest ++ after), whole.symm⟩
  · obtain ⟨opens, feedless, ends⟩ := (isComment_line block text after).mp comment
    have whole := untilFeed_append feedless ends
    exact ⟨by rwa [whole], fun _ => whole⟩

/-- At every step of a scan the line is one more than the line feeds before the cursor. So a comment
carries the number of the line that it opens on. That line holds the opener of the comment, and its
tail from there on is the comment itself unless that is a block. -/
theorem line_eq_of_scan (source : List Char) :
    (∀ earlier cursor, Reached source earlier cursor → cursor.StandsIn source) ∧
    ∀ earlier comment later, scan source = earlier ++ comment :: later →
      ∃ cursor next, Reached source earlier cursor ∧ cursor.step = some (some comment, next) ∧
        comment.text <+: source.drop cursor.offset ∧
        comment.line = 1 + Text.countFeeds (source.take cursor.offset) ∧
        ∃ before tail, before <:+ source.take cursor.offset ∧
          (Text.splitAtFeeds source)[comment.line - 1]? = some (before ++ tail) ∧
          comment.style.opener.toList <+: tail ∧
          (comment.style ≠ .block → tail = comment.text) := by
  refine ⟨fun _ _ => Reached.standsIn, fun earlier comment later found => ?_⟩
  obtain ⟨cursor, next, reached, stepped⟩ := Reached.start.exists_step found
  have stands := reached.standsIn
  obtain ⟨text, after, opened, same, rfl⟩ | ⟨_, _, _, _, absurd, _⟩ := Cursor.step_cases stepped
  · obtain rfl := Option.some.inj same
    obtain ⟨-, whole⟩ := opening?_append opened
    have rest : source.drop cursor.offset = text ++ after := stands.rest_eq.symm.trans whole
    obtain ⟨head, suffix, line⟩ := exists_line_of_append (source.take cursor.offset) (text ++ after)
    rw [← rest, List.take_append_drop] at line
    obtain ⟨opens, tail⟩ := (isComment_of_opening? opened).opener_prefix_untilFeed
    refine ⟨cursor, _, reached, stepped, ?_, stands.line_eq, head, _, suffix, ?_, opens, tail⟩
    · exact rest ▸ List.prefix_append text after
    · rw [stands.line_eq, Nat.add_sub_cancel_left, line, rest]
  · exact (Option.some_ne_none _ absurd).elim

/-- Behind a block of two lines the count goes on with the line that the block ends on. -/
theorem line_eq_of_scan_behind_block :
    scan "a\n/* b\n */ # c\r\n".toList =
      [⟨2, .block, "/* b\n */".toList⟩] ++ ⟨3, .hash, "# c\r".toList⟩ :: [] ∧
    ∃ cursor next, Reached "a\n/* b\n */ # c\r\n".toList [⟨2, .block, "/* b\n */".toList⟩] cursor ∧
      cursor.step = some (some ⟨3, .hash, "# c\r".toList⟩, next) ∧
      3 = 1 + Text.countFeeds ("a\n/* b\n */ # c\r\n".toList.take cursor.offset) := by
  have scanned : scan "a\n/* b\n */ # c\r\n".toList =
      [⟨2, .block, "/* b\n */".toList⟩] ++ ⟨3, .hash, "# c\r".toList⟩ :: [] := by decide +kernel
  obtain ⟨cursor, next, reached, stepped, -, line, -⟩ :=
    (line_eq_of_scan "a\n/* b\n */ # c\r\n".toList).2 _ _ _ scanned
  exact ⟨scanned, cursor, next, reached, stepped, line⟩

end MarkerReport.Comment
