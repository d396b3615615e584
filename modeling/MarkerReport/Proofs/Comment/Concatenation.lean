import Mathlib.Data.List.Infix
import MarkerReport.Proofs.Comment.Grammar

/-! # Comments of one text above another

A scan of two texts, one above the other, takes the steps of a scan of the upper one as long as
these pass over no block opener. Behind the line feed that parts the texts it takes the steps of a
scan of the lower one, only further down. So the comments of the two texts are those of the upper
one and those of the lower one (`MarkerReport.Comment.scan_append_feed`).

A block opener that is passed over is one that is never closed in the upper text
(`MarkerReport.Comment.exists_unclosed_of_mem_gaps`). The lower text may close it.
-/

namespace MarkerReport.Comment

/-- The comment as it is found so many lines further down. -/
def shift (lines : Nat) (comment : Comment) : Comment :=
  { comment with line := comment.line + lines }

namespace Cursor

/-- The cursor in a text that starts so many characters and lines further down. -/
def shift (offset lines : Nat) (cursor : Cursor) : Cursor :=
  ⟨cursor.offset + offset, cursor.line + lines, cursor.rest⟩

/-- The cursor in a longer text, which goes on with a line feed and the text `below`. -/
def extend (cursor : Cursor) (below : List Char) : Cursor :=
  { cursor with rest := cursor.rest ++ '\n' :: below }

/-- The texts that a scan passes over from here on, the first of which starts with the text
`passed` since the last comment. -/
def gapsFrom (passed : List Char) (cursor : Cursor) : List (List Char) :=
  match _stepped : cursor.step with
  | none => [passed]
  | some (none, next) => gapsFrom (passed ++ cursor.rest.take 1) next
  | some (some _, next) => passed :: gapsFrom [] next
termination_by cursor.rest.length
decreasing_by all_goals exact length_rest_lt_of_step _stepped

end Cursor

/-- The gaps of a text: what its scan passes over before the first comment, between the comments,
and behind the last one. -/
def gaps (cs : List Char) : List (List Char) := (Cursor.start cs).gapsFrom []

/-- What follows the line feed does not change a comment that opens before it. -/
theorem IsComment.append_feed {style : CommentStyle} {text after : List Char}
    (comment : IsComment style text after) (below : List Char) :
    IsComment style text (after ++ '\n' :: below) := by
  by_cases block : style = .block
  · subst block
    exact comment
  · rw [isComment_line block] at comment ⊢
    refine ⟨comment.opens, comment.feedless, .inr ?_⟩
    rcases comment.ends with rfl | feed
    · rfl
    · rw [List.head?_append, feed, Option.some_or]

/-- A comment that opens a text opens it still when a line feed and more text are put behind. -/
theorem opening?_append_feed {cs text after : List Char}
    (opened : opening? cs = some (text, after)) (below : List Char) :
    opening? (cs ++ '\n' :: below) = some (text, after ++ '\n' :: below) := by
  obtain ⟨-, rfl⟩ := opening?_append opened
  rw [List.append_assoc]
  exact (opening?_of_isComment ((isComment_of_opening? opened).append_feed below)).1

/-- A line feed is no part of an opener, so only a block that is closed below opens anew. -/
theorem opening?_append_feed_eq_none {cs : List Char} (closed : opening? cs = none)
    (unopened : ¬ ['/', '*'] <+: cs) (below : List Char) :
    opening? (cs ++ '\n' :: below) = none := by
  cases opened : opening? (cs ++ '\n' :: below) with
  | none => rfl
  | some parts =>
      obtain ⟨style, rest, whole⟩ := exists_opener_of_opening? opened
      have within : style.opener.toList <+: cs := by
        rcases List.append_eq_append_iff.mp whole with ⟨behind, long, feed⟩ | ⟨inner, short, -⟩
        · cases behind with
          | nil => exact ⟨[], by rw [long, List.append_nil, List.append_nil]⟩
          | cons c behind =>
              obtain ⟨rfl, -⟩ := List.cons.inj feed
              exact (feed_not_mem_opener style (by simp [long])).elim
        · exact ⟨inner, short.symm⟩
      by_cases block : style = .block
      · subst block
        exact (unopened within).elim
      · obtain ⟨inner, rfl⟩ := within
        rw [opening?_line block] at closed
        exact (Option.some_ne_none _ closed).elim

namespace Cursor

/-- The scan only stops at the end of the text. -/
theorem rest_eq_nil_of_step {cursor : Cursor} (ended : cursor.step = none) : cursor.rest = [] := by
  cases here : cursor.rest with
  | nil => rfl
  | cons c rest =>
      cases opened : opening? (c :: rest) with
      | none => exact absurd (ended.symm.trans (step_of_closed here opened)) nofun
      | some parts =>
          rw [← here] at opened
          exact absurd (ended.symm.trans (step_of_opening? opened)) nofun

/-- A step is the same in a longer text, unless it passes over a block opener. -/
theorem step_extend {cursor next : Cursor} {found : Option Comment}
    (stepped : cursor.step = some (found, next))
    (unopened : found = none → ¬ ['/', '*'] <+: cursor.rest) (below : List Char) :
    (cursor.extend below).step = some (found, next.extend below) := by
  obtain ⟨text, after, opened, rfl, rfl⟩ | ⟨c, rest, here, closed, rfl, rfl⟩ := step_cases stepped
  · exact step_of_opening? (opening?_append_feed opened below)
  · have longer : (cursor.extend below).rest = c :: (rest ++ '\n' :: below) := by
      rw [extend, here, List.cons_append]
    have still := opening?_append_feed_eq_none closed (here ▸ unopened rfl) below
    exact step_of_closed longer still

/-- What has been passed over since the last comment leads one of the gaps. -/
theorem exists_gap_of_passed (passed : List Char) (cursor : Cursor) :
    ∃ gap ∈ cursor.gapsFrom passed, passed <+: gap := by
  fun_induction gapsFrom passed cursor with
  | case1 passed cursor ended => exact ⟨passed, List.mem_singleton_self _, List.prefix_rfl⟩
  | case2 passed cursor next stepped ih =>
      obtain ⟨gap, member, leads⟩ := ih
      exact ⟨gap, member, (List.prefix_append _ _).trans leads⟩
  | case3 passed cursor comment next stepped ih =>
      exact ⟨passed, List.mem_cons_self, List.prefix_rfl⟩

/-- A character that opens no comment goes into the gap before the next one. -/
theorem gapsFrom_of_skip {cursor next : Cursor} (stepped : cursor.step = some (none, next))
    (passed : List Char) :
    cursor.gapsFrom passed = next.gapsFrom (passed ++ cursor.rest.take 1) := by
  rw [gapsFrom]
  split <;> simp_all

/-- Both characters of a block opener that is passed over are in the gap. -/
theorem exists_gap_of_opener {cursor next : Cursor} (stepped : cursor.step = some (none, next))
    (opener : ['/', '*'] <+: cursor.rest) (passed : List Char) :
    ∃ gap ∈ cursor.gapsFrom passed, ['/', '*'] <:+: gap := by
  obtain ⟨rest, here⟩ := opener
  obtain ⟨_, _, _, absurd, _⟩ | ⟨c, tail, there, -, -, rfl⟩ := step_cases stepped
  · exact (Option.some_ne_none _ absurd.symm).elim
  · obtain ⟨rfl, rfl⟩ : '/' = c ∧ '*' :: rest = tail := List.cons.inj (here.trans there)
    have second : (cursor.skip '/' ('*' :: rest)).step =
        some (none, (cursor.skip '/' ('*' :: rest)).skip '*' rest) :=
      step_of_closed rfl rfl
    obtain ⟨gap, member, leads⟩ :=
      exists_gap_of_passed (passed ++ ['/'] ++ ['*'])
        ((cursor.skip '/' ('*' :: rest)).skip '*' rest)
    refine ⟨gap, ?_, ?_⟩
    · rw [gapsFrom_of_skip stepped, there, gapsFrom_of_skip second]
      exact member
    · rw [List.append_assoc] at leads
      exact (List.suffix_append passed _).isInfix.trans leads.isInfix

/-- Where the scan of a text with `below` beneath it goes on when the text is done. -/
def beneath (cursor : Cursor) (below : List Char) : Cursor :=
  (start below).shift (cursor.offset + cursor.rest.length + 1)
    (cursor.line + Text.countFeeds cursor.rest)

/-- The line at which text behind a line feed starts is the same from every cursor of the scan. -/
theorem beneath_of_step {cursor next : Cursor} {found : Option Comment}
    (stepped : cursor.step = some (found, next)) (below : List Char) :
    next.beneath below = cursor.beneath below := by
  obtain ⟨text, after, -, whole, rfl⟩ := exists_behind_of_step stepped
  simp only [beneath, behind, whole, Text.countFeeds, List.count_append, List.length_append,
    Nat.add_assoc]

/-- The scan of the longer text finds what the scan of the text finds, and goes on beneath it. -/
theorem run_extend (cursor : Cursor) (passed below : List Char)
    (unopened : ∀ gap ∈ cursor.gapsFrom passed, ¬ ['/', '*'] <:+: gap) :
    (cursor.extend below).run = cursor.run ++ (cursor.beneath below).run := by
  fun_induction gapsFrom passed cursor with
  | case1 passed cursor ended =>
      have done := rest_eq_nil_of_step ended
      have feed : (cursor.extend below).rest = '\n' :: below := by
        rw [extend, done, List.nil_append]
      have next : (cursor.extend below).skip '\n' below = cursor.beneath below := by
        simp [skip, extend, beneath, shift, start, done, Text.countFeeds, Nat.add_comm]
      rw [run_of_end done, run_of_closed feed rfl, next, List.nil_append]
  | case2 passed cursor next stepped ih =>
      -- A block opener here would be in a gap, and only such a one can be closed below.
      have apart : ¬ ['/', '*'] <+: cursor.rest := by
        intro opener
        obtain ⟨gap, member, holds⟩ := exists_gap_of_opener stepped opener passed
        rw [gapsFrom_of_skip stepped] at member
        exact unopened gap member holds
      rw [run_of_step (step_extend stepped (fun _ => apart) below), run_of_step stepped,
        ih unopened, beneath_of_step stepped, List.append_assoc]
  | case3 passed cursor comment next stepped ih =>
      have later := ih fun gap member => unopened gap (List.mem_cons_of_mem _ member)
      have same := step_extend stepped (fun absurd => (Option.some_ne_none _ absurd).elim) below
      rw [run_of_step same, run_of_step stepped, later, beneath_of_step stepped,
        List.append_assoc]

/-- A cursor that is moved stands behind a comment as one that is moved afterwards. -/
theorem behind_shift (offset lines : Nat) (cursor : Cursor) (text after : List Char) :
    (cursor.shift offset lines).behind text after =
      (cursor.behind text after).shift offset lines := by
  simp only [behind, shift, Nat.add_right_comm]

/-- A step does not depend on where the text starts, but for the line of the comment found. -/
theorem step_shift {cursor next : Cursor} {found : Option Comment}
    (stepped : cursor.step = some (found, next)) (offset lines : Nat) :
    (cursor.shift offset lines).step =
      some (found.map (Comment.shift lines), next.shift offset lines) := by
  obtain ⟨text, after, opened, rfl, rfl⟩ | ⟨c, rest, here, closed, rfl, rfl⟩ := step_cases stepped
  · have lower : opening? (cursor.shift offset lines).rest = some (text, after) := opened
    rw [step_of_opening? lower, behind_shift]
    rfl
  · have lower : (cursor.shift offset lines).rest = c :: rest := here
    rw [step_of_closed lower closed, skip_eq_behind, skip_eq_behind, behind_shift]
    rfl

/-- From a cursor that is moved the scan finds the same comments, on lines moved alike. -/
theorem run_shift (cursor : Cursor) (offset lines : Nat) :
    (cursor.shift offset lines).run = cursor.run.map (Comment.shift lines) := by
  fun_induction run cursor with
  | case1 cursor ended =>
      have done := rest_eq_nil_of_step ended
      exact run_of_end done
  | case2 cursor next stepped ih =>
      rw [run_of_step (step_shift stepped offset lines), ih]
      rfl
  | case3 cursor comment next stepped ih =>
      rw [run_of_step (step_shift stepped offset lines), ih]
      rfl

end Cursor

/-- The comments of two texts, one above the other, are the comments of each, if the scan of the
upper one passes over no block opener. -/
theorem scan_append_feed {above : List Char}
    (unopened : ∀ gap ∈ gaps above, ¬ ['/', '*'] <:+: gap) (below : List Char) :
    scan (above ++ '\n' :: below) =
      scan above ++ (scan below).map (shift (1 + Text.countFeeds above)) := by
  have parted := Cursor.run_extend (.start above) [] below unopened
  rwa [Cursor.beneath, Cursor.run_shift] at parted

/-- What is passed over since the last comment lies before the cursor, and no comment opens in
it. -/
structure Cursor.Trails (source passed : List Char) (cursor : Cursor) : Prop where
  located : passed ++ cursor.rest <:+ source
  closed : ∀ offset < passed.length, ¬ Opens ((passed ++ cursor.rest).drop offset)

/-- A gap is a part of the text in which no comment opens. -/
theorem closed_of_mem_gapsFrom {source passed gap : List Char} {cursor : Cursor}
    (trails : cursor.Trails source passed) (member : gap ∈ cursor.gapsFrom passed) :
    ∃ behind, gap ++ behind <:+ source ∧
      ∀ offset < gap.length, ¬ Opens ((gap ++ behind).drop offset) := by
  fun_induction Cursor.gapsFrom passed cursor with
  | case1 passed cursor ended =>
      obtain rfl := List.mem_singleton.mp member
      exact ⟨cursor.rest, trails.located, trails.closed⟩
  | case2 passed cursor next stepped ih =>
      refine ih ?_ member
      obtain ⟨_, _, _, absurd, _⟩ | ⟨c, rest, here, closed, -, rfl⟩ := Cursor.step_cases stepped
      · exact (Option.some_ne_none _ absurd.symm).elim
      · have whole : passed ++ cursor.rest.take 1 ++ (cursor.skip c rest).rest =
            passed ++ cursor.rest := by
          rw [here, List.append_assoc]
          rfl
        refine ⟨whole ▸ trails.located, fun offset bound => ?_⟩
        rw [whole]
        by_cases before : offset < passed.length
        · exact trails.closed offset before
        · have last : offset = passed.length := by
            rw [here, List.length_append] at bound
            simp only [List.take_succ_cons, List.length_cons, List.take_zero,
              List.length_nil] at bound
            omega
          rw [last, List.drop_left, here]
          exact (opening?_eq_none_iff _).mp closed
  | case3 passed cursor comment next stepped ih =>
      rcases List.mem_cons.mp member with rfl | later
      · exact ⟨cursor.rest, trails.located, trails.closed⟩
      · obtain ⟨text, after, -, whole, rfl⟩ := Cursor.exists_behind_of_step stepped
        refine ih ⟨?_, by simp⟩ later
        refine List.IsSuffix.trans ?_ trails.located
        rw [whole, ← List.append_assoc]
        exact List.suffix_append _ _

/-- A block opener in a gap is never closed in the text. -/
theorem exists_unclosed_of_mem_gaps {source gap : List Char} (member : gap ∈ gaps source)
    (opener : ['/', '*'] <:+: gap) :
    ∃ before rest, source = before ++ '/' :: '*' :: rest ∧ ¬ ['*', '/'] <:+: rest := by
  have trails : (Cursor.start source).Trails source [] := ⟨List.suffix_rfl, by simp⟩
  obtain ⟨behind, ⟨front, whole⟩, closed⟩ := closed_of_mem_gapsFrom trails member
  obtain ⟨before, after, rfl⟩ := opener
  have unopened := closed before.length (by simp)
  rw [List.append_assoc, List.append_assoc, List.drop_left] at unopened
  refine ⟨front ++ before, after ++ behind, ?_,
    fun close => unopened ((opens_block_iff _).mpr close)⟩
  rw [← whole]
  simp

end MarkerReport.Comment
