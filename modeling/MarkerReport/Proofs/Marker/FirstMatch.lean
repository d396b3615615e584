import Mathlib.Data.List.Forall2
import MarkerReport.Marker.Finding
import MarkerReport.Proofs.Marker.Occurrences
import MarkerReport.Proofs.Text.Blanks

/-! # First matches on lines

A keyword matches at a place of a line if the characters from there on agree with its own one by one
up to case, be it inside a longer word. Of all matches on a line one is decisive: it stands at the
least place with a match, and of the keywords that match there it is the first in the list. The line
has a finding just if that match starts with an upper-case letter, and no later match makes up for
one that does not (`MarkerReport.Finding.onLines_first_matches`).
-/

namespace MarkerReport.Occurrence

/-- The occurrence is a part of the text that agrees with the spelling, character by character. -/
structure Matches (text spelling : List Char) (hit : Occurrence) : Prop where
  inside : hit.start ≤ text.length
  located : hit.word <+: text.drop hit.start
  spelled : List.Forall₂ (fun c d => Text.fold c = Text.fold d) hit.word spelling

/-- The decisive match from an offset on: nothing matches further to the left, and no keyword that
comes earlier in the list matches at the same place. -/
structure IsFirstMatch (spellings : List (List Char)) (text : List Char) (offset : Nat)
    (hit : Occurrence) : Prop where
  reached : offset ≤ hit.start
  chosen : ∃ before spelling after, spellings = before ++ spelling :: after ∧
    Matches text spelling hit ∧ ∀ earlier ∈ before, ∀ word, ¬ Matches text earlier ⟨hit.start, word⟩
  leftmost : ∀ other, offset ≤ other.start → other.start < hit.start →
    ∀ spelling ∈ spellings, ¬ Matches text spelling other

/-- One spelling is found at the head of a text exactly with the prefix that folds to it character
by character. -/
theorem ite_take_eq_some_iff (cs spelling word : List Char) :
    (if Text.sameFolded (cs.take spelling.length) spelling then some (cs.take spelling.length)
      else none) = some word ↔
      word <+: cs ∧ List.Forall₂ (fun c d => Text.fold c = Text.fold d) word spelling := by
  rw [Option.ite_none_right_eq_some, Text.sameFolded_iff_forall₂, Option.some.injEq]
  constructor
  · rintro ⟨spelled, rfl⟩
    exact ⟨List.take_prefix _ cs, spelled⟩
  · rintro ⟨leads, spelled⟩
    have front : cs.take spelling.length = word := by
      rw [← spelled.length_eq]
      exact (List.prefix_iff_eq_take.mp leads).symm
    exact ⟨front ▸ spelled, front⟩

section

variable {spellings : List (List Char)}

/-- To match behind what has been passed is to match at the head of what is left. -/
theorem matches_iff_at (passed cs spelling word : List Char) :
    Matches (passed ++ cs) spelling ⟨passed.length, word⟩ ↔
      word <+: cs ∧ List.Forall₂ (fun c d => Text.fold c = Text.fold d) word spelling := by
  constructor
  · intro matched
    have located := matched.located
    rw [List.drop_left] at located
    exact ⟨located, matched.spelled⟩
  · intro matched
    refine ⟨by simp, ?_, matched.2⟩
    rw [List.drop_left]
    exact matched.1

/-- The spelling found at a place is the first of the list that matches there. -/
theorem spelled?_eq_some_iff (passed cs word : List Char) :
    spelled? spellings cs = some word ↔
      ∃ before spelling after, spellings = before ++ spelling :: after ∧
        Matches (passed ++ cs) spelling ⟨passed.length, word⟩ ∧
        ∀ earlier ∈ before, ∀ other, ¬ Matches (passed ++ cs) earlier ⟨passed.length, other⟩ := by
  simp only [spelled?, List.findSome?_eq_some_iff, matches_iff_at, ← ite_take_eq_some_iff,
    ← Option.eq_none_iff_forall_ne_some]

/-- Nothing is found at a place exactly where no spelling of the list matches. -/
theorem spelled?_eq_none_iff (passed cs : List Char) :
    spelled? spellings cs = none ↔
      ∀ spelling ∈ spellings, ∀ word, ¬ Matches (passed ++ cs) spelling ⟨passed.length, word⟩ := by
  simp only [spelled?, List.findSome?_eq_none_iff, matches_iff_at, ← ite_take_eq_some_iff,
    ← Option.eq_none_iff_forall_ne_some]

end

section

variable {spellings : List (List Char)} {text : List Char}

/-- A first match is a match of some spelling of the list. -/
theorem IsFirstMatch.exists_matches {offset : Nat} {hit : Occurrence}
    (first : IsFirstMatch spellings text offset hit) :
    ∃ spelling ∈ spellings, Matches text spelling hit := by
  obtain ⟨before, spelling, after, rfl, matched, -⟩ := first.chosen
  exact ⟨spelling, by simp, matched⟩

/-- Where nothing matches at an offset, the search may start behind it. -/
theorem isFirstMatch_succ_iff {offset : Nat}
    (missing : ∀ spelling ∈ spellings, ∀ word, ¬ Matches text spelling ⟨offset, word⟩)
    (hit : Occurrence) :
    IsFirstMatch spellings text (offset + 1) hit ↔ IsFirstMatch spellings text offset hit := by
  constructor
  · intro first
    refine ⟨Nat.le_of_succ_le first.reached, first.chosen, ?_⟩
    intro other reached left spelling listed matched
    rcases Nat.eq_or_lt_of_le reached with rfl | beyond
    · exact missing spelling listed other.word matched
    · exact first.leftmost other beyond left spelling listed matched
  · intro first
    obtain ⟨spelling, listed, matched⟩ := first.exists_matches
    refine ⟨Nat.lt_of_le_of_ne first.reached ?_, first.chosen, ?_⟩
    · rintro rfl
      exact missing spelling listed hit.word matched
    · intro other reached
      exact first.leftmost other (Nat.le_of_succ_le reached)

/-- Where something matches at an offset, the first keyword of the list that does is decisive. -/
theorem isFirstMatch_iff_of_spelled? {passed cs word : List Char}
    (found : spelled? spellings cs = some word) (hit : Occurrence) :
    IsFirstMatch spellings (passed ++ cs) passed.length hit ↔ ⟨passed.length, word⟩ = hit := by
  have chosen := (spelled?_eq_some_iff passed cs word).mp found
  have first : IsFirstMatch spellings (passed ++ cs) passed.length ⟨passed.length, word⟩ :=
    ⟨le_rfl, chosen, fun _ reached left => (Nat.not_lt.mpr reached left).elim⟩
  constructor
  · intro also
    obtain ⟨start, other⟩ := hit
    obtain ⟨spelling, listed, matched⟩ := first.exists_matches
    have here : passed.length = start := by
      by_contra apart
      exact also.leftmost _ le_rfl (Nat.lt_of_le_of_ne also.reached apart) spelling listed matched
    subst here
    have same := (spelled?_eq_some_iff passed cs other).mpr also.chosen
    rw [Option.some.inj (found.symm.trans same)]
  · rintro rfl
    exact first

/-- The search finds the decisive match. -/
theorem firstFrom?_eq_some_iff (passed cs : List Char) (hit : Occurrence) :
    firstFrom? spellings passed.length cs = some hit ↔
      IsFirstMatch spellings (passed ++ cs) passed.length hit := by
  induction cs generalizing passed with
  | nil =>
      rw [firstFrom?]
      cases found : spelled? spellings [] with
      | some word => rw [Option.some.injEq, isFirstMatch_iff_of_spelled? found]
      | none =>
          refine iff_of_false (Option.some_ne_none hit).symm ?_
          intro first
          -- A match behind the end would have to stand at the end, where nothing matches.
          obtain ⟨spelling, listed, matched⟩ := first.exists_matches
          have ends : hit.start = passed.length := by
            have inside := matched.inside
            rw [List.append_nil] at inside
            exact inside.antisymm first.reached
          exact (spelled?_eq_none_iff passed []).mp found spelling listed hit.word (ends ▸ matched)
  | cons c rest ih =>
      rw [firstFrom?]
      cases found : spelled? spellings (c :: rest) with
      | some word => rw [Option.some.injEq, isFirstMatch_iff_of_spelled? found]
      | none =>
          have missing := (spelled?_eq_none_iff passed (c :: rest)).mp found
          have later := ih (passed ++ [c])
          rw [List.length_append, List.length_singleton, List.append_assoc, List.singleton_append]
            at later
          exact later.trans (isFirstMatch_succ_iff missing hit)

/-- The search of a line finds just its first match. -/
theorem first?_eq_some_iff (keywords : Keywords) (text : List Char) (hit : Occurrence) :
    first? keywords text = some hit ↔ IsFirstMatch keywords.spellings text 0 hit :=
  firstFrom?_eq_some_iff [] text hit

/-- Where some spelling matches there is a first match, since the list has a first spelling that
does. -/
theorem exists_isFirstMatch_here {offset : Nat} {spelling word : List Char}
    (listed : spelling ∈ spellings) (matched : Matches text spelling ⟨offset, word⟩) :
    ∃ first, IsFirstMatch spellings text offset first := by
  obtain ⟨passed, cs, rfl, rfl⟩ : ∃ passed cs, passed ++ cs = text ∧ passed.length = offset :=
    ⟨text.take offset, text.drop offset, List.take_append_drop _ _,
      List.length_take_of_le matched.inside⟩
  cases found : spelled? spellings cs with
  | some first => exact ⟨_, (isFirstMatch_iff_of_spelled? found _).mpr rfl⟩
  | none =>
      exact ((spelled?_eq_none_iff passed cs).mp found spelling listed word matched).elim

/-- There is a decisive match as soon as there is any. -/
theorem exists_isFirstMatch {offset gap : Nat} {spelling word : List Char}
    (listed : spelling ∈ spellings) (matched : Matches text spelling ⟨offset + gap, word⟩) :
    ∃ first, IsFirstMatch spellings text offset first := by
  induction gap generalizing offset with
  | zero => exact exists_isFirstMatch_here listed matched
  | succ gap ih =>
      by_cases missing : ∀ other ∈ spellings, ∀ front, ¬ Matches text other ⟨offset, front⟩
      · rw [← Nat.add_assoc, Nat.add_right_comm] at matched
        obtain ⟨first, isFirst⟩ := ih matched
        exact ⟨first, (isFirstMatch_succ_iff missing first).mp isFirst⟩
      · push Not at missing
        obtain ⟨other, among, front, here⟩ := missing
        exact exists_isFirstMatch_here among here

end

/-- A text with a match has just one decisive match. -/
theorem existsUnique_isFirstMatch_iff (keywords : Keywords) (text : List Char) :
    (∃! hit, IsFirstMatch keywords.spellings text 0 hit) ↔
      ∃ hit, ∃ spelling ∈ keywords.spellings, Matches text spelling hit := by
  constructor
  · rintro ⟨hit, first, -⟩
    exact ⟨hit, first.exists_matches⟩
  · rintro ⟨⟨start, word⟩, spelling, listed, matched⟩
    rw [← Nat.zero_add start] at matched
    obtain ⟨hit, first⟩ := exists_isFirstMatch listed matched
    refine ⟨hit, first, ?_⟩
    intro other also
    rw [← first?_eq_some_iff] at first also
    exact Option.some.inj (also.symm.trans first)

end MarkerReport.Occurrence

namespace MarkerReport.Finding

open Occurrence

/-- The text of a finding on a line, cut from what follows its keyword: the longest run of
separators at the front is dropped, and then the blanks at both ends. -/
def IsLineText (behind text : List Char) : Prop :=
  ∃ separators lead trail, behind = separators ++ (lead ++ (text ++ trail)) ∧
    (∀ c ∈ separators, c = ':' ∨ c = ',' ∨ c = '-' ∨ Text.isBlank c) ∧
    (∀ c, (lead ++ (text ++ trail)).head? = some c →
      c ≠ ':' ∧ c ≠ ',' ∧ c ≠ '-' ∧ Text.isBlank c = false) ∧
    (∀ c ∈ lead, Text.isBlank c) ∧ (∀ c ∈ trail, Text.isBlank c) ∧
    (∀ c, text.head? = some c → Text.isBlank c = false) ∧
    ∀ c, text.getLast? = some c → Text.isBlank c = false

theorem isLineSeparator_iff (c : Char) :
    isLineSeparator c ↔ c = ':' ∨ c = ',' ∨ c = '-' ∨ Text.isBlank c := by
  simp [isLineSeparator, or_assoc]

theorem isLineSeparator_eq_false_iff (c : Char) :
    isLineSeparator c = false ↔ c ≠ ':' ∧ c ≠ ',' ∧ c ≠ '-' ∧ Text.isBlank c = false := by
  simp [isLineSeparator, and_assoc]

/-- The text behind a keyword, characterised by what goes at its two ends, is what the two trims
leave. -/
theorem isLineText_iff (behind text : List Char) :
    IsLineText behind text ↔ text = Text.trimBlanks (behind.dropWhile isLineSeparator) := by
  constructor
  · rintro ⟨separators, lead, trail, rfl, separate, stops, blankLead, blankTrail, -, ends⟩
    -- Blanks are separators, so none is left at the front once the separators are dropped.
    obtain rfl : lead = [] := by
      cases lead with
      | nil => rfl
      | cons c lead =>
          have occupied := (stops c rfl).2.2.2
          rw [blankLead c List.mem_cons_self] at occupied
          exact Bool.noConfusion occupied
    rw [List.nil_append] at stops ⊢
    have separated : (separators ++ (text ++ trail)).dropWhile isLineSeparator = text ++ trail :=
      Text.dropWhile_append_of_stops
        (fun c member => (isLineSeparator_iff c).mpr (separate c member))
        fun c first => (isLineSeparator_eq_false_iff c).mpr (stops c first)
    have front : Text.dropBlanks (text ++ trail) = text ++ trail :=
      Text.dropWhile_append_of_stops (List.forall_mem_nil _) fun c first => (stops c first).2.2.2
    rw [separated, Text.trimBlanks, front, Text.dropBlanksEnd_append_of_stops blankTrail ends]
  · rintro rfl
    have stops (c : Char) (first : (behind.dropWhile isLineSeparator).head? = some c) :
        isLineSeparator c = false := by
      have not := List.head?_dropWhile_not isLineSeparator behind
      simpa [first] using not
    have front : Text.dropBlanks (behind.dropWhile isLineSeparator) =
        behind.dropWhile isLineSeparator :=
      Text.dropWhile_append_of_stops (List.forall_mem_nil _)
        fun c first => ((isLineSeparator_eq_false_iff c).mp (stops c first)).2.2.2
    obtain ⟨trail, cut, blank⟩ :=
      Text.exists_blanks_dropBlanksEnd (behind.dropWhile isLineSeparator)
    rw [Text.trimBlanks, front]
    refine ⟨behind.takeWhile isLineSeparator, [], trail, ?_, ?_, ?_, List.forall_mem_nil _, blank,
      ?_, fun c last => Text.isBlank_getLast?_dropBlanksEnd last⟩
    · rw [List.nil_append, ← cut, List.takeWhile_append_dropWhile]
    · intro c member
      exact (isLineSeparator_iff c).mp (List.mem_takeWhile_imp member)
    · intro c first
      rw [List.nil_append, ← cut] at first
      exact (isLineSeparator_eq_false_iff c).mp (stops c first)
    · intro c first
      have whole : (behind.dropWhile isLineSeparator).head? = some c := by
        rw [cut, List.head?_append, first]
        rfl
      exact ((isLineSeparator_eq_false_iff c).mp (stops c whole)).2.2.2

/-- The text is not empty, and its first character is an upper-case letter. -/
def StartsUppercase (word : List Char) : Prop :=
  ∃ initial rest, word = initial :: rest ∧ Text.isUppercase initial

/-- The finding is what the occurrence says on its line: the kind is the occurrence in upper case,
the text is cut from the rest of the line. -/
structure IsFindingOf (number : Nat) (line : List Char) (hit : Occurrence)
    (finding : Finding) : Prop where
  numbered : finding.line = number
  named : finding.kind = String.ofList (Text.upper hit.word)
  cut : IsLineText (line.drop hit.stop) finding.text.toList

/-- The finding a first match stands for is the one the line policy builds from it. -/
theorem isFindingOf_iff (number : Nat) (line : List Char) (hit : Occurrence) (finding : Finding) :
    IsFindingOf number line hit finding ↔ ofWord number hit.word
      (Text.trimBlanks ((line.drop hit.stop).dropWhile isLineSeparator)) = finding := by
  constructor
  · rintro ⟨rfl, named, cut⟩
    rw [ofWord, ← named, ← (isLineText_iff _ _).mp cut, String.ofList_toList]
  · rintro rfl
    exact ⟨rfl, rfl, (isLineText_iff _ _).mpr String.toList_ofList⟩

section

variable (keywords : Keywords) (number : Nat) (line : List Char)

/-- A line has the finding of its first match, if that starts with an upper-case letter. -/
theorem onLine?_eq_some_iff (finding : Finding) :
    onLine? keywords number line = some finding ↔
      ∃ hit, IsFirstMatch keywords.spellings line 0 hit ∧ StartsUppercase hit.word ∧
        IsFindingOf number line hit finding := by
  simp only [← first?_eq_some_iff, isFindingOf_iff]
  unfold onLine?
  constructor
  · intro found
    split at found
    · exact (Option.some_ne_none finding found.symm).elim
    · rename_i hit first
      split at found
      · exact (Option.some_ne_none finding found.symm).elim
      · rename_i initial rest spelled
        obtain ⟨upper, said⟩ := Option.ite_none_right_eq_some.mp found
        exact ⟨hit, first, ⟨initial, rest, spelled, upper⟩, Option.some.inj said⟩
  · rintro ⟨⟨start, word⟩, first, ⟨initial, rest, rfl, upper⟩, rfl⟩
    simp only [first, upper, if_true]

/-- A line has a finding exactly when its first match starts with a capital. -/
theorem isSome_onLine?_iff :
    (onLine? keywords number line).isSome ↔
      ∃ hit, IsFirstMatch keywords.spellings line 0 hit ∧ StartsUppercase hit.word := by
  rw [Option.isSome_iff_exists]
  constructor
  · rintro ⟨finding, found⟩
    obtain ⟨hit, first, upper, -⟩ := (onLine?_eq_some_iff keywords number line finding).mp found
    exact ⟨hit, first, upper⟩
  · rintro ⟨hit, first, upper⟩
    exact ⟨_, (onLine?_eq_some_iff keywords number line _).mpr
      ⟨hit, first, upper, (isFindingOf_iff number line hit _).mpr rfl⟩⟩

end

/-- Each line is read by itself. -/
theorem onLinesFrom_eq_filterMap (keywords : Keywords) (number : Nat) (texts : List (List Char)) :
    onLinesFrom keywords number texts = (texts.zipIdx number).filterMap
      fun numbered => onLine? keywords numbered.2 numbered.1 := by
  induction texts generalizing number with
  | nil => rfl
  | cons line later ih =>
      rw [onLinesFrom, ih, List.zipIdx_cons, List.filterMap_cons]
      cases onLine? keywords number line with
      | none => rfl
      | some finding => rfl

/-- The findings on the lines of a source are those of the first matches, line by line. A line with
a match has just one first match, and it has a finding if and only if that starts with an upper-case
letter. -/
theorem onLines_first_matches (keywords : Keywords) (source : List Char) :
    onLines keywords source = ((Text.lines source).zipIdx 1).filterMap
      (fun numbered => onLine? keywords numbered.2 numbered.1) ∧
    ∀ number line,
      ((∃! hit, IsFirstMatch keywords.spellings line 0 hit) ↔
        ∃ hit, ∃ spelling ∈ keywords.spellings, Matches line spelling hit) ∧
      ((onLine? keywords number line).isSome ↔
        ∃ hit, IsFirstMatch keywords.spellings line 0 hit ∧ StartsUppercase hit.word) ∧
      ∀ finding, onLine? keywords number line = some finding ↔
        ∃ hit, IsFirstMatch keywords.spellings line 0 hit ∧ StartsUppercase hit.word ∧
          IsFindingOf number line hit finding := by
  refine ⟨onLinesFrom_eq_filterMap keywords 1 (Text.lines source), ?_⟩
  intro number line
  exact ⟨existsUnique_isFirstMatch_iff keywords line, isSome_onLine?_iff keywords number line,
    onLine?_eq_some_iff keywords number line⟩

-- The keyword in upper case on the first line comes too late.
example : onLines Keywords.default "todo TODO a\r\nxFixme:, - b \r".toList =
    [⟨2, "FIXME", "b"⟩] := by
  decide +kernel

end MarkerReport.Finding
