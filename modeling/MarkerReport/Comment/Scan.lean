import MarkerReport.Comment.Basic
import MarkerReport.Text.Lines

/-! # Finding the comments of a text

The text is read from left to right. Where a comment opens, all of it is taken; everywhere else one
character is passed over. A block that is never closed is no comment, so its opener is passed over
like any other character and a comment may open behind it.

Every step leaves a strictly shorter rest, which is what the scan recurses on.
-/

namespace MarkerReport.Comment

/-- Splits a text after its first `*/`. -/
def splitAfterClose : List Char → Option (List Char × List Char)
  | '*' :: '/' :: rest => some (['*', '/'], rest)
  | c :: rest =>
      match splitAfterClose rest with
      | some (inside, after) => some (c :: inside, after)
      | none => none
  | [] => none

/-- The part of a text before its first line feed. -/
def untilFeed (cs : List Char) : List Char := cs.takeWhile (· != '\n')

/-- A text from its first line feed on. -/
def fromFeed (cs : List Char) : List Char := cs.dropWhile (· != '\n')

/-- The comment that a text opens with, and the text behind it. -/
def opening? : List Char → Option (List Char × List Char)
  | '/' :: '*' :: rest =>
      match splitAfterClose rest with
      | some (inside, after) => some ('/' :: '*' :: inside, after)
      | none => none
  | '/' :: '/' :: rest => some ('/' :: '/' :: untilFeed rest, fromFeed rest)
  | '#' :: rest => some ('#' :: untilFeed rest, fromFeed rest)
  | '-' :: '-' :: rest => some ('-' :: '-' :: untilFeed rest, fromFeed rest)
  | _ => none

theorem splitAfterClose_append {cs inside after : List Char}
    (split : splitAfterClose cs = some (inside, after)) : cs = inside ++ after := by
  fun_induction splitAfterClose cs generalizing inside with
  | case1 rest =>
      simp only [Option.some.injEq, Prod.mk.injEq] at split
      obtain ⟨rfl, rfl⟩ := split
      rfl
  | case2 c rest _ inner innerAfter found ih =>
      simp only [Option.some.injEq, Prod.mk.injEq] at split
      obtain ⟨rfl, rfl⟩ := split
      simp [ih found]
  | case3 => simp at split
  | case4 => simp at split

theorem untilFeed_append_fromFeed (cs : List Char) : untilFeed cs ++ fromFeed cs = cs :=
  List.takeWhile_append_dropWhile

/-- A comment is not empty, and with the text behind it makes up the whole text. -/
theorem opening?_append {cs text after : List Char} (found : opening? cs = some (text, after)) :
    text ≠ [] ∧ cs = text ++ after := by
  unfold opening? at found
  split at found
  · split at found
    · rename_i split
      simp only [Option.some.injEq, Prod.mk.injEq] at found
      obtain ⟨rfl, rfl⟩ := found
      simp [splitAfterClose_append split]
    · simp at found
  all_goals first
    | (simp only [Option.some.injEq, Prod.mk.injEq] at found
       obtain ⟨rfl, rfl⟩ := found
       simp [untilFeed_append_fromFeed])
    | simp at found

/-- Whether a comment may open with the character. Nowhere else is one looked for. -/
def mayOpen (c : Char) : Bool := c == '/' || c == '#' || c == '-'

/-- A comment opens with a character that is looked at. -/
theorem mayOpen_of_opening? {c : Char} {rest text after : List Char}
    (opened : opening? (c :: rest) = some (text, after)) : mayOpen c := by
  unfold opening? at opened
  split at opened <;> simp_all [mayOpen]

/-- Where a scan stands: the offset of the next character, its line, counted from one, and the text
from there on. -/
structure Cursor where
  offset : Nat
  line : Nat
  rest : List Char
deriving Repr, DecidableEq

namespace Cursor

/-- Before the first character of a text. -/
def start (cs : List Char) : Cursor := ⟨0, 1, cs⟩

/-- Behind a comment that opens here. -/
def behind (cursor : Cursor) (text after : List Char) : Cursor :=
  ⟨cursor.offset + text.length, cursor.line + Text.countFeeds text, after⟩

/-- Behind the next character. -/
def skip (cursor : Cursor) (c : Char) (rest : List Char) : Cursor :=
  ⟨cursor.offset + 1, if c = '\n' then cursor.line + 1 else cursor.line, rest⟩

theorem behind_behind (cursor : Cursor) (first second passed after : List Char) :
    (cursor.behind first passed).behind second after = cursor.behind (first ++ second) after := by
  simp only [behind, Text.countFeeds, List.length_append, List.count_append, Nat.add_assoc]

/-- A character is passed over just as a comment is. -/
theorem skip_eq_behind (cursor : Cursor) (c : Char) (rest : List Char) :
    cursor.skip c rest = cursor.behind [c] rest := by
  by_cases feed : c = '\n' <;> simp [skip, behind, Text.countFeeds, feed]

/-- One step of a scan: the comment found, if there is one here, and where the scan goes on. There
is no step at the end of the text. -/
def step (cursor : Cursor) : Option (Option Comment × Cursor) :=
  match cursor.rest with
  | [] => none
  | c :: rest =>
      match if mayOpen c then opening? (c :: rest) else none with
      | some (text, after) =>
          some (some ⟨cursor.line, .ofText text, text⟩, cursor.behind text after)
      | none => some (none, cursor.skip c rest)

theorem step_of_opening? {cursor : Cursor} {text after : List Char}
    (opened : opening? cursor.rest = some (text, after)) :
    cursor.step = some (some ⟨cursor.line, .ofText text, text⟩, cursor.behind text after) := by
  unfold step
  cases here : cursor.rest with
  | nil => simp [here, opening?] at opened
  | cons c rest =>
      rw [here] at opened
      simp only [mayOpen_of_opening? opened, ↓reduceIte, opened]

theorem step_of_closed {cursor : Cursor} {c : Char} {rest : List Char}
    (here : cursor.rest = c :: rest) (closed : opening? (c :: rest) = none) :
    cursor.step = some (none, cursor.skip c rest) := by
  simp only [step, here, closed, ite_self]

/-- What a step can be: a comment opens here and is taken, or a character is passed over. -/
theorem step_cases {cursor next : Cursor} {found : Option Comment}
    (stepped : cursor.step = some (found, next)) :
    (∃ text after, opening? cursor.rest = some (text, after) ∧
      found = some ⟨cursor.line, .ofText text, text⟩ ∧ next = cursor.behind text after) ∨
    (∃ c rest, cursor.rest = c :: rest ∧ opening? (c :: rest) = none ∧
      found = none ∧ next = cursor.skip c rest) := by
  cases here : cursor.rest with
  | nil => simp [step, here] at stepped
  | cons c rest =>
      cases opened : opening? (c :: rest) with
      | none =>
          rw [step_of_closed here opened] at stepped
          obtain ⟨rfl, rfl⟩ := Prod.mk.inj (Option.some.inj stepped)
          exact .inr ⟨c, rest, rfl, opened, rfl, rfl⟩
      | some split =>
          obtain ⟨text, after⟩ := split
          rw [← here] at opened
          rw [step_of_opening? opened] at stepped
          obtain ⟨rfl, rfl⟩ := Prod.mk.inj (Option.some.inj stepped)
          exact .inl ⟨text, after, rfl, rfl, rfl⟩

/-- A step passes over some text, in one way or the other. -/
theorem exists_behind_of_step {cursor next : Cursor} {found : Option Comment}
    (stepped : cursor.step = some (found, next)) :
    ∃ text after, text ≠ [] ∧ cursor.rest = text ++ after ∧ next = cursor.behind text after := by
  obtain ⟨text, after, opened, _, rfl⟩ | ⟨c, rest, here, _, _, rfl⟩ := step_cases stepped
  · obtain ⟨nonempty, whole⟩ := opening?_append opened
    exact ⟨text, after, nonempty, whole, rfl⟩
  · exact ⟨[c], rest, by simp, here, skip_eq_behind cursor c rest⟩

theorem length_rest_lt_of_step {cursor next : Cursor} {found : Option Comment}
    (stepped : cursor.step = some (found, next)) : next.rest.length < cursor.rest.length := by
  obtain ⟨text, after, nonempty, whole, rfl⟩ := exists_behind_of_step stepped
  have positive := List.length_pos_iff.mpr nonempty
  rw [whole, List.length_append]
  simp only [behind]
  omega

/-- The comments from here on. -/
def run (cursor : Cursor) : List Comment :=
  match _stepped : cursor.step with
  | none => []
  | some (none, next) => run next
  | some (some comment, next) => comment :: run next
termination_by cursor.rest.length
decreasing_by all_goals exact length_rest_lt_of_step _stepped

theorem run_of_end {cursor : Cursor} (ended : cursor.rest = []) : cursor.run = [] := by
  unfold run
  split <;> simp_all [step]

/-- What a step finds comes first. -/
theorem run_of_step {cursor next : Cursor} {found : Option Comment}
    (stepped : cursor.step = some (found, next)) : cursor.run = found.toList ++ next.run := by
  rw [run]
  cases found <;> split <;> simp_all

theorem run_of_opening? {cursor : Cursor} {text after : List Char}
    (opened : opening? cursor.rest = some (text, after)) :
    cursor.run = ⟨cursor.line, .ofText text, text⟩ :: (cursor.behind text after).run :=
  run_of_step (step_of_opening? opened)

theorem run_of_closed {cursor : Cursor} {c : Char} {rest : List Char}
    (here : cursor.rest = c :: rest) (closed : opening? (c :: rest) = none) :
    cursor.run = (cursor.skip c rest).run :=
  run_of_step (step_of_closed here closed)

end Cursor

/-- The comments of a text, in order. -/
def scan (cs : List Char) : List Comment := (Cursor.start cs).run

end MarkerReport.Comment
