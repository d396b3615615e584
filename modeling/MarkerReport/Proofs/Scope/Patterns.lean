import MarkerReport.Proofs.Scan.LineEnds
import MarkerReport.Proofs.Text.Blanks

/-! # Signatures and equations as patterns

A pattern is matched at the front of a text by trying one way after the other: a run of characters
takes as many as it can, and gives them back one at a time if what follows does not match. A line
that introduces a name can be told by two such patterns, one for signatures and one for equations,
which both start with the name.

Neither pattern ever matches with less than the longest name, because what follows the name starts
with a character that no name goes on with. So the patterns give what `Equation.scopeName?` reads
off the line directly, and it does not matter which of them is tried first
(`MarkerReport.Equation.scopeName?_matches_patterns`).
-/

namespace MarkerReport

/-- A pattern for the front of a text. -/
inductive Pattern where
  /-- One character of a class. -/
  | one (allowed : Char → Bool)
  /-- Any number of characters of a class, rather more than fewer. -/
  | run (allowed : Char → Bool)
  /-- A pattern and another one right behind it. -/
  | seq (first second : Pattern)

namespace Pattern

/-- At least one character of a class. -/
def runOfSome (allowed : Char → Bool) : Pattern := .seq (.one allowed) (.run allowed)

/-- The ways to take a run of characters off a text, the longest first. A way is what is taken and
what is left. -/
def runWays (allowed : Char → Bool) : List Char → List (List Char × List Char)
  | [] => [([], [])]
  | c :: rest =>
      if allowed c then
        (runWays allowed rest).map (fun way => (c :: way.1, way.2)) ++ [([], c :: rest)]
      else [([], c :: rest)]

/-- The ways in which a pattern matches at the front of a text, in the order in which they are
tried. -/
def ways : Pattern → List Char → List (List Char × List Char)
  | .one _, [] => []
  | .one allowed, c :: rest => if allowed c then [([c], rest)] else []
  | .run allowed, text => runWays allowed text
  | .seq first second, text =>
      (first.ways text).flatMap fun way =>
        (second.ways way.2).map fun next => (way.1 ++ next.1, next.2)

/-- Whether a pattern can take the whole of a text. -/
def Spells : Pattern → List Char → Prop
  | .one allowed, text => ∃ c, allowed c ∧ text = [c]
  | .run allowed, text => ∀ c ∈ text, allowed c
  | .seq first second, text => ∃ front back, text = front ++ back ∧ first.Spells front ∧
      second.Spells back

/-- A run can take every prefix of the text whose characters are all allowed. -/
theorem mem_runWays_iff (allowed : Char → Bool) (text taken rest : List Char) :
    (taken, rest) ∈ runWays allowed text ↔ (∀ c ∈ taken, allowed c) ∧ text = taken ++ rest := by
  induction text generalizing taken with
  | nil =>
      rw [runWays, List.mem_singleton, Prod.mk.injEq, List.nil_eq, List.append_eq_nil_iff]
      constructor
      · rintro ⟨rfl, rfl⟩
        simp
      · exact And.right
  | cons c text ih =>
      cases taken with
      | nil =>
          have whole : (([] : List Char), rest) = ([], c :: text) ↔ c :: text = rest := by
            rw [Prod.mk.injEq, eq_self, true_and, eq_comm]
          rw [runWays, List.nil_append]
          split
          · simpa using whole
          · simpa using whole
      | cons d taken =>
          rw [runWays, List.cons_append, List.cons.injEq, List.forall_mem_cons]
          split
          · rename_i fits
            simp only [List.mem_append, List.mem_map, List.mem_singleton, Prod.mk.injEq,
              List.cons.injEq, reduceCtorEq, false_and, or_false, Prod.exists]
            constructor
            · rintro ⟨front, back, member, ⟨rfl, rfl⟩, rfl⟩
              obtain ⟨all, rfl⟩ := (ih front).mp member
              exact ⟨⟨fits, all⟩, rfl, rfl⟩
            · rintro ⟨⟨-, all⟩, rfl, rfl⟩
              exact ⟨taken, rest, (ih taken).mpr ⟨all, rfl⟩, ⟨rfl, rfl⟩, rfl⟩
          · rename_i other
            simp only [List.mem_singleton, Prod.mk.injEq, reduceCtorEq, false_and, false_iff]
            rintro ⟨⟨fits, -⟩, rfl, -⟩
            exact other fits

/-- Every way of cutting a text in a part that the pattern spells and a rest is tried, and no
other. -/
theorem mem_ways_iff (pattern : Pattern) (text taken rest : List Char) :
    (taken, rest) ∈ pattern.ways text ↔ pattern.Spells taken ∧ text = taken ++ rest := by
  induction pattern generalizing text taken rest with
  | one allowed =>
      cases text with
      | nil =>
          simp only [ways, List.not_mem_nil, Spells, false_iff]
          rintro ⟨⟨c, -, rfl⟩, whole⟩
          simp at whole
      | cons c text =>
          rw [ways]
          split
          · rename_i fits
            simp only [List.mem_singleton, Prod.mk.injEq, Spells]
            constructor
            · rintro ⟨rfl, rfl⟩
              exact ⟨⟨c, fits, rfl⟩, rfl⟩
            · rintro ⟨⟨d, -, rfl⟩, whole⟩
              simpa [eq_comm] using whole
          · rename_i other
            simp only [List.not_mem_nil, Spells, false_iff]
            rintro ⟨⟨d, fits, rfl⟩, whole⟩
            obtain rfl := (List.cons.inj whole).1
            exact other fits
  | run allowed => exact mem_runWays_iff allowed text taken rest
  | seq first second firstIh secondIh =>
      simp only [ways, List.mem_flatMap, List.mem_map, Prod.exists, Prod.mk.injEq, Spells,
        firstIh, secondIh]
      constructor
      · rintro ⟨front, middle, ⟨spelled, rfl⟩, back, left, ⟨next, rfl⟩, rfl, rfl⟩
        exact ⟨⟨front, back, rfl, spelled, next⟩, (List.append_assoc _ _ _).symm⟩
      · rintro ⟨⟨front, back, rfl, spelled, next⟩, rfl⟩
        exact ⟨front, back ++ rest, ⟨spelled, List.append_assoc _ _ _⟩, back, rest, ⟨next, rfl⟩,
          rfl, rfl⟩

/-- A run of some characters spells just the texts of allowed characters that are not empty. -/
theorem spells_runOfSome_iff (allowed : Char → Bool) (text : List Char) :
    (runOfSome allowed).Spells text ↔ text ≠ [] ∧ ∀ c ∈ text, allowed c := by
  cases text with
  | nil => simp [runOfSome, Spells]
  | cons c text => simp [runOfSome, Spells]

end Pattern

namespace Equation

/-- A name: a letter or an underscore, then word characters and apostrophes. -/
def namePattern : Pattern := .seq (.one startsName) (.run continuesName)

/-- What makes a line a signature: blanks, if any, and two colons. -/
def behindSignature : Pattern :=
  .seq (.run Text.isBlank) (.seq (.one (· == ':')) (.one (· == ':')))

/-- What makes a line an equation: a blank or more, and an equals sign somewhere behind them and
before a line feed. -/
def behindEquation : Pattern :=
  .seq (.runOfSome Text.isBlank) (.seq (.run (· != '\n')) (.one (· == '=')))

/-- The names with which a line matches a name and the given pattern behind it, one for each way of
matching, in the order in which these are tried. -/
def captures (behind : Pattern) (line : List Char) : List (List Char) :=
  (namePattern.ways line).flatMap fun way => (behind.ways way.2).map fun _ => way.1

/-- The line is the longest name at its start, the blanks behind it, and a body. -/
structure Parts (line name blanks body : List Char) : Prop where
  whole : line = name ++ (blanks ++ body)
  starts : ∃ c rest, name = c :: rest ∧ startsName c ∧ ∀ d ∈ rest, continuesName d
  name_ends : ∀ c, (blanks ++ body).head? = some c → continuesName c = false
  blank : ∀ c ∈ blanks, Text.isBlank c
  blanks_end : ∀ c, body.head? = some c → Text.isBlank c = false

/-- No blank continues a name. -/
theorem continuesName_of_isBlank {c : Char} (blank : Text.isBlank c) : continuesName c = false := by
  rw [continuesName, Text.isWord_of_isBlank blank, Bool.false_or, beq_eq_false_iff_ne]
  rintro rfl
  exact absurd blank (by decide)

section

variable {line name blanks body : List Char} (parts : Parts line name blanks body)

include parts

/-- The name at the start of a line is the longest one. -/
theorem Parts.leadingName?_eq : leadingName? line = some (name, blanks ++ body) := by
  obtain ⟨c, rest, rfl, starts, continued⟩ := parts.starts
  rw [parts.whole, List.cons_append, leadingName?, if_pos starts,
    Text.takeWhile_append_of_stops continued parts.name_ends,
    Text.dropWhile_append_of_stops continued parts.name_ends]

/-- A line introduces its name by a signature sign, or by an equals sign with blanks before it. -/
theorem Parts.introduces_iff :
    introduces (blanks ++ body) ↔
      [':', ':'] <+: body ∨ blanks ≠ [] ∧ '=' ∈ Comment.untilFeed body := by
  rw [Equation.introduces_iff, Text.takeWhile_append_of_stops parts.blank parts.blanks_end,
    Text.dropWhile_append_of_stops parts.blank parts.blanks_end]

end

/-- A name at the start of a line, the blanks behind it and what follows them are the parts of the
line. -/
theorem parts_of_leadingName? {line name after : List Char}
    (leads : leadingName? line = some (name, after)) :
    Parts line name (after.takeWhile Text.isBlank) (after.dropWhile Text.isBlank) := by
  cases line with
  | nil => simp [leadingName?] at leads
  | cons c rest =>
      rw [leadingName?] at leads
      split at leads
      · rename_i starts
        obtain ⟨rfl, rfl⟩ := Prod.mk.inj (Option.some.inj leads)
        refine ⟨?_, ⟨c, _, rfl, starts, fun d => List.mem_takeWhile_imp⟩, ?_,
          fun d => List.mem_takeWhile_imp, fun d => Text.stops_of_head?_dropWhile⟩
        · rw [List.takeWhile_append_dropWhile, List.cons_append, List.takeWhile_append_dropWhile]
        · rw [List.takeWhile_append_dropWhile]
          exact fun d => Text.stops_of_head?_dropWhile
      · simp at leads

/-- The text holds an equals sign before its first line feed. -/
def HoldsEquals (body : List Char) : Prop :=
  ∃ before after, body = before ++ '=' :: after ∧ '\n' ∉ before

/-- An equals sign on the first line of a body is one before the first feed. -/
theorem mem_untilFeed_iff_holdsEquals (body : List Char) :
    '=' ∈ Comment.untilFeed body ↔ HoldsEquals body := by
  constructor
  · intro member
    obtain ⟨before, after, split⟩ := List.append_of_mem member
    refine ⟨before, after ++ Comment.fromFeed body, ?_, fun feed => ?_⟩
    · rw [← List.cons_append, ← List.append_assoc, ← split, Comment.untilFeed_append_fromFeed]
    · apply Comment.feed_not_mem_untilFeed body
      rw [split]
      exact List.mem_append_left _ feed
  · rintro ⟨before, after, rfl, feedless⟩
    rw [Comment.untilFeed_append_of_feedless feedless]
    exact List.mem_append_right before List.mem_cons_self

/-- What `scopeName?` reads off a line. -/
theorem scopeName?_eq_some_iff (line name : List Char) :
    scopeName? line = some name ↔
      ∃ blanks body, Parts line name blanks body ∧
        ([':', ':'] <+: body ∨ blanks ≠ [] ∧ HoldsEquals body) := by
  constructor
  · intro named
    rw [scopeName?] at named
    split at named
    · rename_i found after leads
      have parts := parts_of_leadingName? leads
      split at named
      · rename_i introduced
        obtain rfl := Option.some.inj named
        rw [← List.takeWhile_append_dropWhile (p := Text.isBlank) (l := after),
          parts.introduces_iff, mem_untilFeed_iff_holdsEquals] at introduced
        exact ⟨_, _, parts, introduced⟩
      · simp at named
    · simp at named
  · rintro ⟨blanks, body, parts, introduced⟩
    rw [← mem_untilFeed_iff_holdsEquals, ← parts.introduces_iff] at introduced
    rw [scopeName?, parts.leadingName?_eq]
    exact if_pos introduced

/-- The first pattern spells names and nothing else. -/
theorem spells_namePattern_iff (name : List Char) :
    namePattern.Spells name ↔
      ∃ c rest, name = c :: rest ∧ startsName c ∧ ∀ d ∈ rest, continuesName d := by
  simp only [namePattern, Pattern.Spells]
  constructor
  · rintro ⟨-, rest, rfl, ⟨c, starts, rfl⟩, continued⟩
    exact ⟨c, rest, rfl, starts, continued⟩
  · rintro ⟨c, rest, rfl, starts, continued⟩
    exact ⟨[c], rest, rfl, ⟨c, starts, rfl⟩, continued⟩

/-- A name is captured if the line goes on behind it with what the pattern spells. -/
theorem mem_captures_iff (behind : Pattern) (line name : List Char) :
    name ∈ captures behind line ↔
      namePattern.Spells name ∧
        ∃ taken left, behind.Spells taken ∧ line = name ++ (taken ++ left) := by
  simp only [captures, List.mem_flatMap, List.mem_map, Prod.exists, Pattern.mem_ways_iff]
  constructor
  · rintro ⟨front, -, ⟨named, rfl⟩, taken, left, ⟨spelled, rfl⟩, rfl⟩
    exact ⟨named, taken, left, spelled, rfl⟩
  · rintro ⟨named, taken, left, spelled, rfl⟩
    exact ⟨name, taken ++ left, ⟨named, rfl⟩, taken, left, ⟨spelled, rfl⟩, rfl⟩

/-- Behind the name of a signature stand blanks and the sign of a type. -/
theorem spells_behindSignature_iff (taken : List Char) :
    behindSignature.Spells taken ↔
      ∃ blanks, (∀ c ∈ blanks, Text.isBlank c) ∧ taken = blanks ++ [':', ':'] := by
  simp [behindSignature, Pattern.Spells, and_comm]

/-- Behind the name of an equation stand some blanks, anything but a feed, and an equals sign. -/
theorem spells_behindEquation_iff (taken : List Char) :
    behindEquation.Spells taken ↔
      ∃ blanks before, blanks ≠ [] ∧ (∀ c ∈ blanks, Text.isBlank c) ∧ '\n' ∉ before ∧
        taken = blanks ++ (before ++ ['=']) := by
  simp only [behindEquation, Pattern.Spells, Pattern.spells_runOfSome_iff]
  constructor
  · rintro ⟨blanks, -, rfl, ⟨occupied, blank⟩, before, -, rfl, feedless, c, same, rfl⟩
    obtain rfl := beq_iff_eq.mp same
    refine ⟨blanks, before, occupied, blank, fun feed => ?_, rfl⟩
    exact absurd (feedless _ feed) (by decide)
  · rintro ⟨blanks, before, occupied, blank, feedless, rfl⟩
    refine ⟨blanks, before ++ ['='], rfl, ⟨occupied, blank⟩, before, ['='], rfl, ?_, '=', rfl, rfl⟩
    intro c member
    rw [bne_iff_ne]
    rintro rfl
    exact feedless member

/-- What the pattern of signatures captures is the longest name of the line: the sign of a type ends
it wherever it may be cut. -/
theorem mem_captures_behindSignature_iff (line name : List Char) :
    name ∈ captures behindSignature line ↔
      ∃ blanks body, Parts line name blanks body ∧ [':', ':'] <+: body := by
  rw [mem_captures_iff, spells_namePattern_iff]
  simp only [spells_behindSignature_iff]
  constructor
  · rintro ⟨starts, -, left, ⟨blanks, blank, rfl⟩, rfl⟩
    refine ⟨blanks, ':' :: ':' :: left, ⟨?_, starts, ?_, blank, ?_⟩, List.prefix_append _ left⟩
    · rw [List.append_assoc, List.cons_append, List.cons_append, List.nil_append]
    · intro c first
      cases blanks with
      | nil =>
          obtain rfl := Option.some.inj first
          decide +kernel
      | cons d blanks =>
          obtain rfl := Option.some.inj first
          exact continuesName_of_isBlank (blank d List.mem_cons_self)
    · intro c first
      obtain rfl := Option.some.inj first
      decide
  · rintro ⟨blanks, -, parts, left, rfl⟩
    refine ⟨parts.starts, blanks ++ [':', ':'], left, ⟨blanks, parts.blank, rfl⟩, ?_⟩
    rw [parts.whole, List.append_assoc]

/-- However the blanks are shared between the run of blanks and what follows it, the equals sign
stands behind all of them. -/
theorem mem_captures_behindEquation_iff (line name : List Char) :
    name ∈ captures behindEquation line ↔
      ∃ blanks body, Parts line name blanks body ∧ blanks ≠ [] ∧ HoldsEquals body := by
  rw [mem_captures_iff, spells_namePattern_iff]
  simp only [spells_behindEquation_iff]
  constructor
  · rintro ⟨starts, -, left, ⟨front, before, occupied, blank, feedless, rfl⟩, rfl⟩
    obtain ⟨c, front, rfl⟩ := List.exists_cons_of_ne_nil occupied
    refine ⟨c :: front ++ before.takeWhile Text.isBlank,
      before.dropWhile Text.isBlank ++ '=' :: left, ⟨?_, starts, ?_, ?_, ?_⟩, ?_, _, left, rfl, ?_⟩
    · rw [List.append_assoc (c :: front), List.append_assoc (c :: front),
        ← List.append_assoc (before.takeWhile _), List.takeWhile_append_dropWhile,
        List.append_assoc before, List.singleton_append]
    · intro d first
      obtain rfl := Option.some.inj first
      exact continuesName_of_isBlank (blank c List.mem_cons_self)
    · intro d member
      rcases List.mem_append.mp member with inside | inside
      · exact blank d inside
      · exact List.mem_takeWhile_imp inside
    · intro d first
      rw [List.head?_append, Option.or_eq_some_iff] at first
      rcases first with inside | ⟨-, equals⟩
      · exact Text.stops_of_head?_dropWhile inside
      · obtain rfl := Option.some.inj equals
        decide
    · exact List.cons_ne_nil _ _
    · intro feed
      exact feedless ((List.dropWhile_suffix _).subset feed)
  · rintro ⟨blanks, -, parts, occupied, before, after, rfl, feedless⟩
    refine ⟨parts.starts, blanks ++ (before ++ ['=']), after,
      ⟨blanks, before, occupied, parts.blank, feedless, rfl⟩, ?_⟩
    rw [parts.whole, List.append_assoc, List.append_assoc, List.singleton_append]

/-- A line introduces a name just if one of the patterns captures it, in whatever way it matches. -/
theorem mem_captures_iff_scopeName? (line name : List Char) :
    name ∈ captures behindSignature line ++ captures behindEquation line ↔
      scopeName? line = some name := by
  rw [List.mem_append, mem_captures_behindSignature_iff, mem_captures_behindEquation_iff,
    scopeName?_eq_some_iff]
  simp only [and_or_left, exists_or]

/-- Where all ways of matching capture the one name that a line introduces, so does the first of
them. -/
theorem head?_eq_scopeName? {line : List Char} {names : List (List Char)}
    (captured : ∀ name, name ∈ names ↔ scopeName? line = some name) :
    names.head? = scopeName? line := by
  cases first : names.head? with
  | none =>
      rw [List.head?_eq_none_iff] at first
      symm
      apply Option.eq_none_iff_forall_ne_some.mpr
      intro name named
      rw [← captured, first] at named
      exact List.not_mem_nil named
  | some name => exact ((captured name).mp (List.mem_of_head? first)).symm

/-- A line introduces a name exactly if the longest name at its start is followed by two colons,
blanks aside, or by a blank and later an equals sign that no line feed precedes. These are the names
that the two patterns capture. Neither captures anything but the longest name, in any of the ways in
which it matches, so that the name is the same whichever pattern is tried first. -/
theorem scopeName?_matches_patterns (line : List Char) :
    (∀ name, scopeName? line = some name ↔
      ∃ blanks body, Parts line name blanks body ∧
        ([':', ':'] <+: body ∨ blanks ≠ [] ∧ HoldsEquals body)) ∧
    (∀ name, name ∈ captures behindSignature line ++ captures behindEquation line ↔
      scopeName? line = some name) ∧
    (captures behindSignature line).head?.or (captures behindEquation line).head? =
      scopeName? line ∧
    (captures behindEquation line).head?.or (captures behindSignature line).head? =
      scopeName? line := by
  have captured := mem_captures_iff_scopeName? line
  refine ⟨scopeName?_eq_some_iff line, captured, ?_, ?_⟩
  · rw [← List.head?_append]
    exact head?_eq_scopeName? captured
  · rw [← List.head?_append]
    apply head?_eq_scopeName?
    intro name
    rw [← captured, List.mem_append, List.mem_append, or_comm]

-- Blanks can be taken in three ways and end at two equals signs; the name is the same in all six.
example : captures behindEquation "f'   = g = 1".toList = List.replicate 6 "f'".toList := by
  decide +kernel

end Equation

end MarkerReport
