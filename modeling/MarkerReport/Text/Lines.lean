/-! # Lines of a text

A line ends at a line feed. The line feed, and one carriage return right before it, are not part of
the line; a carriage return anywhere else is an ordinary character. A text that ends in a line feed
has no further, empty line after it.
-/

namespace MarkerReport.Text

/-- The pieces between line feeds; one more piece than there are line feeds. -/
def splitAtFeeds : List Char → List (List Char)
  | [] => [[]]
  | c :: rest =>
      if c = '\n' then [] :: splitAtFeeds rest
      else
        match splitAtFeeds rest with
        | [] => [[c]]
        | piece :: pieces => (c :: piece) :: pieces

theorem splitAtFeeds_ne_nil (cs : List Char) : splitAtFeeds cs ≠ [] := by
  unfold splitAtFeeds
  repeat' split
  all_goals simp

/-- Off a line feed, a character goes to the first piece of what follows it. -/
theorem splitAtFeeds_cons {c : Char} {rest piece : List Char} {pieces : List (List Char)}
    (other : c ≠ '\n') (split : splitAtFeeds rest = piece :: pieces) :
    splitAtFeeds (c :: rest) = (c :: piece) :: pieces := by
  rw [splitAtFeeds, if_neg other, split]

/-- A line feed parts the pieces before it from those behind it. -/
theorem splitAtFeeds_append_feed (cs rest : List Char) :
    splitAtFeeds (cs ++ '\n' :: rest) = splitAtFeeds cs ++ splitAtFeeds rest := by
  induction cs with
  | nil => simp [splitAtFeeds]
  | cons c cs ih =>
      by_cases feed : c = '\n'
      · simp [splitAtFeeds, feed, ih]
      · cases split : splitAtFeeds cs with
        | nil => exact (splitAtFeeds_ne_nil cs split).elim
        | cons piece pieces =>
            rw [split] at ih
            rw [List.cons_append, splitAtFeeds_cons feed ih, splitAtFeeds_cons feed split]
            rfl

/-- Drops one carriage return at the end. -/
def dropReturn (piece : List Char) : List Char :=
  match piece.getLast? with
  | some '\r' => piece.dropLast
  | _ => piece

/-- The lines of a text, given as the pieces between its line feeds. -/
def linesOfPieces : List (List Char) → List (List Char)
  | [] => []
  | [last] => if last.isEmpty then [] else [last]
  | piece :: pieces => dropReturn piece :: linesOfPieces pieces

/-- The lines of a text. -/
def lines (cs : List Char) : List (List Char) := linesOfPieces (splitAtFeeds cs)

/-- How many line feeds a text holds. -/
def countFeeds (cs : List Char) : Nat := cs.count '\n'

theorem length_splitAtFeeds (cs : List Char) : (splitAtFeeds cs).length = countFeeds cs + 1 := by
  induction cs with
  | nil => rfl
  | cons c cs ih =>
      by_cases feed : c = '\n'
      · simp_all [splitAtFeeds, countFeeds]
      · cases split : splitAtFeeds cs with
        | nil => exact (splitAtFeeds_ne_nil cs split).elim
        | cons piece pieces =>
            rw [splitAtFeeds_cons feed split]
            simp_all [countFeeds]

/-- A text is a last line without a line feed, or a line with a line feed and the text behind it. -/
@[elab_as_elim]
theorem byLines {motive : List Char → Prop}
    (last : ∀ line, '\n' ∉ line → motive line)
    (feed : ∀ line rest, '\n' ∉ line → motive rest → motive (line ++ '\n' :: rest))
    (cs : List Char) : motive cs := by
  suffices split : ∀ line, '\n' ∉ line → motive (line ++ cs) from split [] (by simp)
  induction cs with
  | nil => exact fun line feedless => by simpa using last line feedless
  | cons c cs ih =>
      intro line feedless
      by_cases ends : c = '\n'
      · subst ends
        exact feed line cs feedless (ih [] (by simp))
      · rw [List.append_cons]
        refine ih (line ++ [c]) ?_
        rw [List.mem_append, List.mem_singleton, not_or]
        exact ⟨feedless, Ne.symm ends⟩

theorem splitAtFeeds_of_feedless {line : List Char} (feedless : '\n' ∉ line) :
    splitAtFeeds line = [line] := by
  induction line with
  | nil => rfl
  | cons c line ih =>
      rw [List.mem_cons, not_or] at feedless
      exact splitAtFeeds_cons (Ne.symm feedless.1) (ih feedless.2)

theorem lines_of_feedless {line : List Char} (feedless : '\n' ∉ line) :
    lines line = if line.isEmpty then [] else [line] := by
  rw [lines, splitAtFeeds_of_feedless feedless, linesOfPieces]

theorem lines_append_feed {line : List Char} (feedless : '\n' ∉ line) (rest : List Char) :
    lines (line ++ '\n' :: rest) = dropReturn line :: lines rest := by
  rw [lines, splitAtFeeds_append_feed, splitAtFeeds_of_feedless feedless, List.singleton_append,
    lines]
  cases pieces : splitAtFeeds rest with
  | nil => exact (splitAtFeeds_ne_nil rest pieces).elim
  | cons piece later => rfl

/-- A piece that is not empty is a line. -/
theorem lt_length_linesOfPieces {pieces : List (List Char)} {index : Nat} {piece : List Char}
    (here : pieces[index]? = some piece) (nonempty : piece ≠ []) :
    index < (linesOfPieces pieces).length := by
  fun_induction linesOfPieces pieces generalizing index with
  | case1 => simp at here
  | case2 last empty =>
      cases index with
      | zero =>
          obtain rfl := Option.some.inj here
          exact (nonempty (List.isEmpty_iff.mp empty)).elim
      | succ index => simp at here
  | case3 last occupied =>
      cases index with
      | zero => exact Nat.one_pos
      | succ index => simp at here
  | case4 first later _ ih =>
      cases index with
      | zero => exact Nat.succ_pos _
      | succ index => exact Nat.succ_lt_succ (ih here)

theorem dropReturn_append_return (line : List Char) : dropReturn (line ++ ['\r']) = line := by
  simp [dropReturn]

/-- A line is what it was, or has lost a carriage return. -/
theorem eq_dropReturn_or (line : List Char) :
    line = dropReturn line ∨ line = dropReturn line ++ ['\r'] := by
  unfold dropReturn
  split
  · rename_i ends
    obtain ⟨front, rfl⟩ := List.getLast?_eq_some_iff.mp ends
    exact .inr (by rw [List.dropLast_concat])
  · exact .inl rfl

end MarkerReport.Text
