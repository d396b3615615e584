import MarkerReport.Proofs.Comment.Concatenation
import MarkerReport.Proofs.Marker.Lines
import MarkerReport.Proofs.Marker.Words

/-! # Findings of one text above another

The findings of two texts, one above the other, are those of the upper one and those of the lower
one, further down. Under the line policy this is always so, and under the comment policy unless the
scan of the upper text passes over a block opener, which the lower text may close
(`MarkerReport.Finding.extract_append_feed`).
-/

namespace MarkerReport.Finding

open Comment Occurrence

/-- The finding as it is made so many lines further down. -/
def shift (lines : Nat) (finding : Finding) : Finding :=
  { finding with line := finding.line + lines }

/-- Lines further down give the same finding, that many lines further down. -/
theorem onLine?_shift (keywords : Keywords) (number lines : Nat) (line : List Char) :
    onLine? keywords (number + lines) line = (onLine? keywords number line).map (shift lines) := by
  unfold onLine?
  repeat' split
  all_goals rfl

/-- The findings on lines move with their lines. -/
theorem onLinesFrom_shift (keywords : Keywords) (number lines : Nat) (texts : List (List Char)) :
    onLinesFrom keywords (number + lines) texts =
      (onLinesFrom keywords number texts).map (shift lines) := by
  induction texts generalizing number with
  | nil => rfl
  | cons line later ih =>
      rw [onLinesFrom, onLinesFrom, onLine?_shift, Nat.add_right_comm, ih, List.map_append]
      cases onLine? keywords number line <;> rfl

/-- The findings of one record move with its line. -/
theorem ofOccurrences_shift (line lines : Nat) (text : List Char) (hits : List Occurrence) :
    ofOccurrences (line + lines) text hits = (ofOccurrences line text hits).map (shift lines) := by
  fun_induction ofOccurrences line text hits with
  | case1 => rfl
  | case2 hit => rfl
  | case3 hit next later ih =>
      rw [ofOccurrences, ih]
      rfl

/-- The findings of a comment move with the comment. -/
theorem inComment_shift (keywords : Keywords) (lines : Nat) (comment : Comment) :
    inComment keywords (comment.shift lines) = (inComment keywords comment).map (shift lines) :=
  ofOccurrences_shift comment.line lines comment.text _

/-- The last line of the upper text loses a carriage return, and an empty one is a line now. Neither
makes a finding. -/
theorem onLinesFrom_append_feed {keywords : Keywords} (unbroken : Unbroken keywords.spellings)
    (number : Nat) (above below : List Char) :
    onLinesFrom keywords number (Text.lines (above ++ '\n' :: below)) =
      onLinesFrom keywords number (Text.lines above) ++
        onLinesFrom keywords (number + (1 + Text.countFeeds above)) (Text.lines below) := by
  induction above using Text.byLines generalizing number with
  | last line feedless =>
      have noFeeds : Text.countFeeds line = 0 := List.count_eq_zero_of_not_mem feedless
      rw [Text.lines_append_feed feedless, Text.lines_of_feedless feedless, onLinesFrom,
        onLine?_dropReturn unbroken, noFeeds]
      cases line with
      | nil => rw [onLine?_nil unbroken]; rfl
      | cons c line =>
          rw [List.isEmpty_cons, if_neg nofun, onLinesFrom, onLinesFrom, List.append_nil]
  | feed line rest feedless ih =>
      have feeds : Text.countFeeds (line ++ '\n' :: rest) = Text.countFeeds rest + 1 := by
        rw [Text.countFeeds, List.count_append, List.count_eq_zero_of_not_mem feedless,
          List.count_cons_self, Nat.zero_add, Text.countFeeds]
      rw [List.append_assoc, List.cons_append, Text.lines_append_feed feedless,
        Text.lines_append_feed feedless, onLinesFrom, onLinesFrom, ih, feeds, List.append_assoc]
      congr 3
      omega

/-- Where no gap above opens a block, the findings in comments of two sources joined by a feed are
those of the first and, moved down, those of the second. -/
theorem inComments_append_feed (keywords : Keywords) {above : List Char}
    (unopened : ∀ gap ∈ gaps above, ¬ ['/', '*'] <:+: gap) (below : List Char) :
    inComments keywords (above ++ '\n' :: below) =
      inComments keywords above ++
        (inComments keywords below).map (shift (1 + Text.countFeeds above)) := by
  rw [inComments, scan_append_feed unopened, List.flatMap_append, inComments, inComments,
    List.map_flatMap, List.flatMap_map]
  simp only [inComment_shift]

/-- Text above adds its own findings and moves those below it down by its lines. Under the comment
policy it changes nothing else either, unless its scan passes over a block opener, and any such
opener is never closed in the text above. -/
theorem extract_append_feed (settings : Settings) (valid : settings.validate = .ok ())
    (keywords : Keywords) (accepted : settings.keywords = .ok keywords) (above below : List Char) :
    extract .line keywords (above ++ '\n' :: below) =
      extract .line keywords above ++
        (extract .line keywords below).map (shift (1 + Text.countFeeds above)) ∧
    ((∀ gap ∈ gaps above, ¬ ['/', '*'] <:+: gap) →
      extract .comment keywords (above ++ '\n' :: below) =
        extract .comment keywords above ++
          (extract .comment keywords below).map (shift (1 + Text.countFeeds above))) ∧
    (extract .comment keywords (above ++ '\n' :: below) ≠
        extract .comment keywords above ++
          (extract .comment keywords below).map (shift (1 + Text.countFeeds above)) →
      ∃ before rest, above = before ++ '/' :: '*' :: rest ∧ ¬ ['*', '/'] <:+: rest) := by
  refine ⟨?_, fun unopened => inComments_append_feed keywords unopened below, fun differs => ?_⟩
  · have unbroken := Settings.unbroken_of_validate valid accepted
    exact (onLinesFrom_append_feed unbroken 1 above below).trans
      (congrArg _ (onLinesFrom_shift keywords 1 _ (Text.lines below)))
  · by_contra closed
    refine differs (inComments_append_feed keywords (fun gap member opener => ?_) below)
    exact closed (exists_unclosed_of_mem_gaps member opener)

/-- A block that is closed above changes nothing below, one that is closed only below does. -/
theorem extract_append_feed_of_blocks :
    Settings.default.validate = .ok () ∧ Settings.default.keywords = .ok Keywords.default ∧
    (∀ gap ∈ gaps "x /* todo a\n*/ y # TODO b\r".toList, ¬ ['/', '*'] <:+: gap) ∧
    extract .comment Keywords.default
        ("x /* todo a\n*/ y # TODO b\r".toList ++ '\n' :: "*/ // FIXME c".toList) =
      [⟨1, "TODO", "a"⟩, ⟨2, "TODO", "b"⟩, ⟨3, "FIXME", "c"⟩] ∧
    extract .line Keywords.default
        ("x /* todo a\n*/ y # TODO b\r".toList ++ '\n' :: "*/ // FIXME c".toList) =
      [⟨2, "TODO", "b"⟩, ⟨3, "FIXME", "c"⟩] ∧
    extract .comment Keywords.default ("x /* y".toList ++ '\n' :: "TODO */".toList) ≠
      extract .comment Keywords.default "x /* y".toList ++
        (extract .comment Keywords.default "TODO */".toList).map (shift 1) ∧
    ∃ before rest, "x /* y".toList = before ++ '/' :: '*' :: rest ∧ ¬ ['*', '/'] <:+: rest := by
  have valid : Settings.default.validate = .ok () := by decide +kernel
  have accepted : Settings.default.keywords = .ok Keywords.default := by decide +kernel
  have unopened : ∀ gap ∈ gaps "x /* todo a\n*/ y # TODO b\r".toList, ¬ ['/', '*'] <:+: gap := by
    decide +kernel
  have areWords : Keywords.default.AreWords := by decide +kernel
  have differs : extract .comment Keywords.default ("x /* y".toList ++ '\n' :: "TODO */".toList) ≠
      extract .comment Keywords.default "x /* y".toList ++
        (extract .comment Keywords.default "TODO */".toList).map (shift 1) := by
    simp only [extract, inComments, inComment_eq_of_areWords areWords]
    decide +kernel
  have law := extract_append_feed Settings.default valid Keywords.default accepted
  obtain ⟨byLine, byComment, -⟩ := law "x /* todo a\n*/ y # TODO b\r".toList "*/ // FIXME c".toList
  refine ⟨valid, accepted, unopened, ?_, ?_, differs, ?_⟩
  · rw [byComment unopened]
    simp only [extract, inComments, inComment_eq_of_areWords areWords]
    decide +kernel
  · rw [byLine]
    decide +kernel
  · exact (law "x /* y".toList "TODO */".toList).2.2 differs

end MarkerReport.Finding
