import Mathlib.Data.List.Forall2
import MarkerReport.Proofs.Comment.Concatenation
import MarkerReport.Proofs.Text.Returns

/-! # Comments and carriage returns

No opener of a comment, and not the close of a block, holds a line break. So two texts that differ
only in carriage returns at the ends of lines have the same comments, on the same lines, but for
carriage returns at the ends of their lines
(`MarkerReport.Comment.forall₂_scan_of_returned`). A comment that takes the rest of a line takes the
carriage return at its end too.
-/

namespace MarkerReport.Comment

open Text (Returned)

/-- Both parts of two cut texts differ only in carriage returns. -/
def PartsReturned (left right : List Char × List Char) : Prop :=
  Returned left.1 right.1 ∧ Returned left.2 right.2

/-- Splits that agree up to carriage returns do so after a change that keeps that. -/
theorem partsReturned_map {first second : Option (List Char × List Char)}
    {front back : List Char × List Char → List Char × List Char}
    (related : Option.Rel PartsReturned first second)
    (keeps : ∀ left right, PartsReturned left right → PartsReturned (front left) (back right)) :
    Option.Rel PartsReturned (first.map front) (second.map back) := by
  cases related with
  | none => exact .none
  | some parts => exact .some (keeps _ _ parts)

/-- Carriage returns change no count of lines. -/
theorem countFeeds_of_returned {left right : List Char} (returned : Returned left right) :
    Text.countFeeds left = Text.countFeeds right := by
  induction returned with
  | nil => rfl
  | ending => rfl
  | cons c rest ih =>
      rw [Text.countFeeds, Text.countFeeds, List.count_cons, List.count_cons]
      exact congrArg (· + _) ih
  | feed rest ih =>
      rw [Text.countFeeds, Text.countFeeds, List.count_cons_self, List.count_cons_of_ne (by decide),
        List.count_cons_self]
      exact congrArg (· + 1) ih

/-- Lines of texts that agree up to carriage returns agree so, and what is behind them, too. -/
theorem partsReturned_feed {left right : List Char} (returned : Returned left right) :
    PartsReturned (untilFeed left, fromFeed left) (untilFeed right, fromFeed right) := by
  induction returned with
  | nil => exact ⟨.nil, .nil⟩
  | ending => exact ⟨.ending, .nil⟩
  | @cons c left right rest ih =>
      by_cases feed : c = '\n'
      · subst feed
        exact ⟨.nil, .cons '\n' rest⟩
      · simp only [untilFeed, fromFeed, List.takeWhile_cons, List.dropWhile_cons,
          bne_iff_ne.mpr feed, ↓reduceIte]
        exact ⟨.cons c ih.1, ih.2⟩
  | @feed left right rest => exact ⟨.ending, .cons '\n' rest⟩

/-- The first close is at the same place of both texts. -/
theorem splitAfterClose_of_returned {left right : List Char} (returned : Returned left right) :
    Option.Rel PartsReturned (splitAfterClose left) (splitAfterClose right) := by
  induction returned with
  | nil => exact .none
  | ending => exact .none
  | @cons c left right rest ih =>
      by_cases leads : ['*', '/'] <+: c :: left
      · obtain ⟨tail, split⟩ := leads
        obtain ⟨rfl, rfl⟩ : '*' = c ∧ '/' :: tail = left := List.cons.inj split
        have slash : '\n' ∉ ['/'] := by decide
        obtain ⟨behind, rfl, later⟩ := Returned.of_append_left slash rest
        exact .some ⟨.refl _, later⟩
      · have apart : ¬ ['*', '/'] <+: c :: right := by
          rintro ⟨tail, split⟩
          have whole : Returned (c :: left) (['*', '/'] ++ tail) := split ▸ .cons c rest
          obtain ⟨behind, same, -⟩ := whole.of_append_right (by decide)
          exact leads ⟨behind, same.symm⟩
        rw [splitAfterClose_cons leads, splitAfterClose_cons apart]
        exact partsReturned_map ih fun _ _ parts => ⟨.cons c parts.1, parts.2⟩
  | @feed left right rest ih =>
      have other (c : Char) (tail : List Char) (off : c ≠ '*') : ¬ ['*', '/'] <+: c :: tail := by
        rintro ⟨after, split⟩
        exact off (List.cons.inj split).1.symm
      rw [splitAfterClose_cons (other _ _ (by decide)),
        splitAfterClose_cons (other _ _ (by decide)),
        splitAfterClose_cons (other _ _ (by decide)), Option.map_map]
      exact partsReturned_map ih fun _ _ parts => ⟨.feed parts.1, parts.2⟩

/-- No opener holds a carriage return. -/
theorem return_not_mem_opener (style : CommentStyle) : '\r' ∉ style.opener.toList := by
  cases style <;> decide

/-- Behind an opener, texts that agree up to carriage returns open comments that agree so. -/
theorem opening?_opener_of_returned (style : CommentStyle) {left right : List Char}
    (returned : Returned left right) :
    Option.Rel PartsReturned (opening? (style.opener.toList ++ left))
      (opening? (style.opener.toList ++ right)) := by
  by_cases block : style = .block
  · subst block
    rw [opening?_block, opening?_block]
    exact partsReturned_map (splitAfterClose_of_returned returned) fun _ _ parts =>
      ⟨parts.1.append_left _, parts.2⟩
  · rw [opening?_line block, opening?_line block]
    obtain ⟨line, rest⟩ := partsReturned_feed returned
    exact .some ⟨line.append_left _, rest⟩

/-- Texts that agree up to carriage returns open comments that agree so. -/
theorem opening?_of_returned {left right : List Char} (returned : Returned left right) :
    Option.Rel PartsReturned (opening? left) (opening? right) := by
  by_cases opener : ∃ (style : CommentStyle) (rest : List Char), left = style.opener.toList ++ rest
  · obtain ⟨style, rest, rfl⟩ := opener
    obtain ⟨behind, rfl, later⟩ := returned.of_append_left (feed_not_mem_opener style)
    exact opening?_opener_of_returned style later
  · have closed : opening? left = none := by
      cases opened : opening? left with
      | none => rfl
      | some parts => exact (opener (exists_opener_of_opening? opened)).elim
    cases opened : opening? right with
    | none => rw [closed]; exact .none
    | some parts =>
        obtain ⟨style, rest, rfl⟩ := exists_opener_of_opening? opened
        obtain ⟨behind, rfl, -⟩ := returned.of_append_right (return_not_mem_opener style)
        exact (opener ⟨style, behind, rfl⟩).elim

/-- The comments are found on the same line and differ only in carriage returns. -/
structure SameLine (comment other : Comment) : Prop where
  line : comment.line = other.line
  text : Returned comment.text other.text

/-- Two scans find such comments step by step. Where only one of the texts has a carriage return
before the line feed, that one takes a step more. -/
theorem forall₂_run_of_returned {cursor other : Cursor} (line : cursor.line = other.line)
    (returned : Returned cursor.rest other.rest) :
    List.Forall₂ SameLine cursor.run other.run := by
  fun_induction Cursor.run cursor generalizing other with
  | case1 cursor ended =>
      have nothing : other.run = [] := by
        rw [Cursor.rest_eq_nil_of_step ended] at returned
        generalize there : other.rest = rest at returned
        cases returned with
        | nil => exact Cursor.run_of_end there
        | ending => rw [Cursor.run_of_closed there rfl, Cursor.run_of_end rfl]
      rw [nothing]
      exact .nil
  | case2 cursor next stepped ih =>
      obtain ⟨_, _, _, absurd, _⟩ | ⟨c, rest, here, closed, -, rfl⟩ := Cursor.step_cases stepped
      · exact (Option.some_ne_none _ absurd.symm).elim
      · have opened := opening?_of_returned returned
        rw [here, closed] at opened
        rw [here] at returned
        generalize there : other.rest = right at returned opened
        cases returned with
        | @cons _ _ right later =>
            have still : opening? (c :: right) = none := by
              generalize opening? (c :: right) = found at opened
              cases opened
              rfl
            rw [Cursor.run_of_closed there still]
            exact ih (by simp only [Cursor.skip, line]) later
        | @feed _ right later =>
            have feed : (other.skip '\r' ('\n' :: right)).rest = '\n' :: right := rfl
            rw [Cursor.run_of_closed there rfl, Cursor.run_of_closed feed rfl]
            exact ih (by simp [Cursor.skip, line]) later
  | case3 cursor comment next stepped ih =>
      obtain ⟨text, after, opened, same, rfl⟩ | ⟨_, _, _, _, absurd, _⟩ :=
        Cursor.step_cases stepped
      · obtain rfl := Option.some.inj same
        have both := opening?_of_returned returned
        rw [opened] at both
        generalize found : opening? other.rest = others at both
        cases both with
        | @some _ parts both =>
            have feeds := countFeeds_of_returned both.1
            rw [Cursor.run_of_opening? found]
            exact .cons ⟨line, both.1⟩ (ih (by simp only [Cursor.behind, line, feeds]) both.2)
      · exact (Option.some_ne_none _ absurd).elim

/-- Texts that agree up to carriage returns have the same comments line for line. -/
theorem forall₂_scan_of_returned {source other : List Char} (returned : Returned source other) :
    List.Forall₂ SameLine (scan source) (scan other) :=
  forall₂_run_of_returned rfl returned

end MarkerReport.Comment
