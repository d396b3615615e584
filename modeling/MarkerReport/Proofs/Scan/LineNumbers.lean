import Mathlib.Data.List.Pairwise
import MarkerReport.Proofs.Comment.Lines
import MarkerReport.Proofs.Marker.Words
import MarkerReport.Proofs.Scope.Painting
import MarkerReport.Scope.Resolve

/-! # Line numbers of findings and of scope maps

Findings and scopes are joined by their lines, and the two are counted apart: a finding in a comment
carries the count of line feeds before the comment, a finding on a line the number of that line, and
a scope map has an entry for each line of the source. All three agree: every finding stands on a
line that the scope map speaks of (`MarkerReport.Finding.line_mem_scopeMap`).
-/

namespace MarkerReport.Comment

/-- A step never goes back up the lines. -/
theorem Cursor.line_le_of_step {cursor next : Cursor} {found : Option Comment}
    (stepped : cursor.step = some (found, next)) : cursor.line ≤ next.line := by
  obtain ⟨text, after, -, -, rfl⟩ := exists_behind_of_step stepped
  exact Nat.le_add_right _ _

/-- A comment has the line on which the step that found it began. -/
theorem line_eq_of_step {cursor next : Cursor} {comment : Comment}
    (stepped : cursor.step = some (some comment, next)) : comment.line = cursor.line := by
  obtain ⟨text, after, -, same, -⟩ | ⟨_, _, _, _, absurd, _⟩ := Cursor.step_cases stepped
  · obtain rfl := Option.some.inj same
    rfl
  · exact (Option.some_ne_none _ absurd).elim

/-- Every comment of a run lies on the line of the cursor or below. -/
theorem line_le_of_mem_run {cursor : Cursor} {comment : Comment} (member : comment ∈ cursor.run) :
    cursor.line ≤ comment.line := by
  fun_induction Cursor.run cursor with
  | case1 cursor ended => simp at member
  | case2 cursor next stepped ih => exact (Cursor.line_le_of_step stepped).trans (ih member)
  | case3 cursor first next stepped ih =>
      rcases List.mem_cons.mp member with rfl | later
      · exact (line_eq_of_step stepped).ge
      · exact (Cursor.line_le_of_step stepped).trans (ih later)

/-- A scan only goes down. -/
theorem pairwise_run (cursor : Cursor) :
    cursor.run.Pairwise fun first second => first.line ≤ second.line := by
  fun_induction Cursor.run cursor with
  | case1 cursor ended => exact .nil
  | case2 cursor next stepped ih => exact ih
  | case3 cursor first next stepped ih =>
      refine .cons (fun second member => ?_) ih
      rw [line_eq_of_step stepped]
      exact (Cursor.line_le_of_step stepped).trans (line_le_of_mem_run member)

/-- A comment opens on a line of the source, because the line holds its opener and is not empty. -/
theorem line_mem_of_mem_scan {source : List Char} {comment : Comment}
    (member : comment ∈ scan source) :
    1 ≤ comment.line ∧ comment.line ≤ (Text.lines source).length := by
  obtain ⟨before, later, found⟩ := List.append_of_mem member
  obtain ⟨cursor, next, reached, stepped⟩ := Reached.start.exists_step found
  have stands := reached.standsIn
  obtain ⟨text, after, opened, same, rfl⟩ | ⟨_, _, _, _, absurd, _⟩ := Cursor.step_cases stepped
  · have whole : source.take cursor.offset ++ (text ++ after) = source := by
      rw [← (opening?_append opened).2, stands.rest_eq, List.take_append_drop]
    obtain ⟨head, -, line⟩ := exists_line_of_append (source.take cursor.offset) (text ++ after)
    rw [whole] at line
    -- An empty piece behind the last line feed is no line, so the opener has to stand on this one.
    have opens := (isComment_of_opening? opened).opener_prefix_untilFeed.1
    have nonempty : head ++ untilFeed (text ++ after) ≠ [] := by
      intro empty
      rw [(List.append_eq_nil_iff.mp empty).2, List.prefix_nil] at opens
      generalize CommentStyle.ofText text = style at opens
      cases style <;> simp [CommentStyle.opener] at opens
    have within := Text.lt_length_linesOfPieces line nonempty
    rw [line_eq_of_step stepped, stands.line_eq, Text.lines]
    omega
  · exact (Option.some_ne_none _ absurd).elim

end MarkerReport.Comment

namespace MarkerReport.Finding

open Comment

/-- Every finding in a comment has a line of that comment, whose record it stands in. -/
theorem line_of_mem_inComment {keywords : Keywords} {comment : Comment} {finding : Finding}
    (member : finding ∈ inComment keywords comment) : finding.line = comment.line := by
  have listed := List.mem_map_of_mem (f := fun finding => (finding.line, finding.kind)) member
  rw [inComment, ofOccurrences_map] at listed
  obtain ⟨hit, -, same⟩ := List.mem_map.mp listed
  exact (Prod.mk.inj same).1.symm

/-- The findings in comments come in the order of their lines. -/
theorem pairwise_inComments (keywords : Keywords) (source : List Char) :
    (inComments keywords source).Pairwise fun first second => first.line ≤ second.line := by
  rw [inComments, List.pairwise_flatMap]
  constructor
  · intro comment _
    refine List.pairwise_of_forall_mem_list fun first here second there => ?_
    rw [line_of_mem_inComment here, line_of_mem_inComment there]
  · refine (pairwise_run (.start source)).imp fun order first here second there => ?_
    rw [line_of_mem_inComment here, line_of_mem_inComment there]
    exact order

/-- A finding on a line has the number of that line. -/
theorem line_of_onLine? {keywords : Keywords} {number : Nat} {line : List Char} {finding : Finding}
    (found : onLine? keywords number line = some finding) : finding.line = number := by
  unfold onLine? at found
  repeat' split at found
  all_goals first
    | (obtain rfl := Option.some.inj found; rfl)
    | simp at found

/-- The findings on lines have numbers of lines that were searched. -/
theorem line_of_mem_onLinesFrom {keywords : Keywords} {number : Nat} {texts : List (List Char)}
    {finding : Finding} (member : finding ∈ onLinesFrom keywords number texts) :
    number ≤ finding.line ∧ finding.line < number + texts.length := by
  induction texts generalizing number with
  | nil => simp [onLinesFrom] at member
  | cons line later ih =>
      rw [onLinesFrom, List.mem_append, Option.mem_toList] at member
      rw [List.length_cons]
      rcases member with here | below
      · have number := line_of_onLine? here
        omega
      · have bounds := ih below
        omega

/-- No line has two findings under the line policy, and they come in order. -/
theorem pairwise_onLinesFrom (keywords : Keywords) (number : Nat) (texts : List (List Char)) :
    (onLinesFrom keywords number texts).Pairwise fun first second => first.line < second.line := by
  induction texts generalizing number with
  | nil => exact .nil
  | cons line later ih =>
      rw [onLinesFrom, List.pairwise_append]
      refine ⟨?_, ih (number + 1), fun first here second there => ?_⟩
      · cases onLine? keywords number line with
        | none => exact .nil
        | some finding => exact List.pairwise_singleton _ _
      · rw [line_of_onLine? (Option.mem_toList.mp here)]
        exact (line_of_mem_onLinesFrom there).1

/-- Every finding is attributed to a line of the source. -/
theorem line_mem_of_mem_extract {policy : Policy} {keywords : Keywords} {source : List Char}
    {finding : Finding} (member : finding ∈ extract policy keywords source) :
    1 ≤ finding.line ∧ finding.line ≤ (Text.lines source).length := by
  cases policy with
  | comment =>
      obtain ⟨comment, listed, inside⟩ := List.mem_flatMap.mp member
      rw [line_of_mem_inComment inside]
      exact line_mem_of_mem_scan listed
  | line =>
      have bounds := line_of_mem_onLinesFrom member
      omega

end MarkerReport.Finding

namespace MarkerReport.ScopeMap

/-- Each line gets one scope. -/
theorem length_scopesFrom (current : String) (texts : List (List Char)) :
    (Equation.scopesFrom current texts).length = texts.length := by
  induction texts generalizing current with
  | nil => rfl
  | cons line later ih => rw [Equation.scopesFrom, List.length_cons, List.length_cons, ih]

/-- Scopes are always resolved, unless the strategy asks for a syntax tree and the source has none.
-/
theorem exists_resolve (strategy : ScopeStrategy) (source : List Char)
    (parsed : strategy = .syntaxTree → ∃ intervals, Python.definitions source = .ok intervals) :
    ∃ map, resolve strategy source = .ok map := by
  cases strategy with
  | lineHeuristic => exact ⟨_, rfl⟩
  | syntaxTree =>
      obtain ⟨intervals, defined⟩ := parsed rfl
      exact ⟨_, by rw [resolve, defined]⟩

/-- A scope map speaks of just the lines of its source. -/
theorem size_of_resolve {strategy : ScopeStrategy} {source : List Char} {map : ScopeMap}
    (resolved : resolve strategy source = .ok map) : map.size = (Text.lines source).length := by
  cases strategy with
  | lineHeuristic =>
      obtain rfl := Except.ok.inj resolved
      exact length_scopesFrom _ _
  | syntaxTree =>
      cases defined : Python.definitions source with
      | error fault => simp [resolve, defined] at resolved
      | ok intervals =>
          rw [resolve, defined] at resolved
          obtain rfl := Except.ok.inj resolved
          exact size_ofIntervals _ _

end MarkerReport.ScopeMap

namespace MarkerReport.Finding

/-- Under either strategy, a source whose scopes can be found has a scope for each of its lines, and
for each of its findings one that is looked up in the map. The findings come line by line: those in
comments may share a line, those on lines do not. -/
theorem line_mem_scopeMap (keywords : Keywords) (source : List Char) :
    (∀ strategy, (strategy = .syntaxTree → ∃ intervals, Python.definitions source = .ok intervals) →
      ∃ map, ScopeMap.resolve strategy source = .ok map ∧
        map.size = (Text.lines source).length ∧
        ∀ policy, ∀ finding ∈ extract policy keywords source,
          1 ≤ finding.line ∧ finding.line ≤ map.size ∧
            map.names[finding.line - 1]? = some (map.scopeFor finding.line)) ∧
    ((extract .comment keywords source).map (·.line)).Pairwise (· ≤ ·) ∧
    ((extract .line keywords source).map (·.line)).Pairwise (· < ·) := by
  refine ⟨fun strategy parsed => ?_, ?_, ?_⟩
  · obtain ⟨map, resolved⟩ := ScopeMap.exists_resolve strategy source parsed
    have size := ScopeMap.size_of_resolve resolved
    refine ⟨map, resolved, size, fun policy finding member => ?_⟩
    obtain ⟨positive, within⟩ := line_mem_of_mem_extract member
    rw [← size] at within
    exact ⟨positive, within, ScopeMap.scopeFor_eq_getElem positive within⟩
  · exact List.pairwise_map.mpr (pairwise_inComments keywords source)
  · exact List.pairwise_map.mpr (pairwise_onLinesFrom keywords 1 (Text.lines source))

/-- The last line has no line feed and carries two findings, and the one before it ends in a
carriage return. -/
theorem line_mem_scopeMap_unterminated :
    Python.definitions "def f():\n  pass # TODO a\r\n# fixme: b, todo c".toList =
      .ok [⟨1, 2, "f"⟩] ∧
    extract .comment Keywords.default "def f():\n  pass # TODO a\r\n# fixme: b, todo c".toList =
      [⟨2, "TODO", "a"⟩, ⟨3, "FIXME", "b,"⟩, ⟨3, "TODO", "c"⟩] ∧
    ∃ map, ScopeMap.resolve .syntaxTree
        "def f():\n  pass # TODO a\r\n# fixme: b, todo c".toList = .ok map ∧
      map.size = 3 ∧ map.names[1]? = some (map.scopeFor 2) ∧
      map.names[2]? = some (map.scopeFor 3) := by
  have defined : Python.definitions "def f():\n  pass # TODO a\r\n# fixme: b, todo c".toList =
      .ok [⟨1, 2, "f"⟩] := by
    decide +kernel
  have areWords : Keywords.default.AreWords := by decide +kernel
  have found : extract .comment Keywords.default
      "def f():\n  pass # TODO a\r\n# fixme: b, todo c".toList =
        [⟨2, "TODO", "a"⟩, ⟨3, "FIXME", "b,"⟩, ⟨3, "TODO", "c"⟩] := by
    simp only [extract, inComments, inComment_eq_of_areWords areWords]
    decide +kernel
  obtain ⟨map, resolved, size, joined⟩ :=
    (line_mem_scopeMap Keywords.default
      "def f():\n  pass # TODO a\r\n# fixme: b, todo c".toList).1 .syntaxTree
      fun _ => ⟨_, defined⟩
  have findings := joined .comment
  rw [found] at findings
  refine ⟨defined, found, map, resolved, ?_, ?_, ?_⟩
  · rw [size]
    decide +kernel
  · exact (findings ⟨2, "TODO", "a"⟩ (by simp)).2.2
  · exact (findings ⟨3, "TODO", "c"⟩ (by simp)).2.2

end MarkerReport.Finding
