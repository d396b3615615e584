import Mathlib.Order.Bounds.Defs
import MarkerReport.Proofs.Scan.LineEnds
import MarkerReport.Proofs.Scan.LineNumbers

/-! # The most recent name

Going down a file of signatures and equations, each line is given the scope that the lines up to it
have left open. Without going down the file: a line belongs to the last line at or above it that
introduces a name, and to the module if there is none. So what stands below a line has no influence
on it, and a file that is continued by further lines keeps the scopes it had
(`MarkerReport.Equation.scopeMap_names_latest`).
-/

namespace MarkerReport.Text

/-- A text at the end of which further lines can follow: the text is empty or ends in a line feed,
or what follows starts with a line end. -/
def ContinuedBy (text further : List Char) : Prop :=
  text = [] ∨ text.getLast? = some '\n' ∨ ['\n'] <+: further ∨ ['\r', '\n'] <+: further

instance (text further : List Char) : Decidable (ContinuedBy text further) :=
  inferInstanceAs (Decidable (_ ∨ _ ∨ _ ∨ _))

/-- Whether lines can follow depends on the end of a text only, not on its first line. -/
theorem ContinuedBy.of_append_feed {line rest further : List Char}
    (continued : ContinuedBy (line ++ '\n' :: rest) further) : ContinuedBy rest further := by
  rcases continued with empty | ends | starts
  · simp at empty
  · cases rest with
    | nil => exact .inl rfl
    | cons c rest => exact .inr (.inl (by simpa using ends))
  · exact .inr (.inr starts)

/-- Further lines leave those in front of them as they are, a carriage return at the end of the last
one apart. -/
theorem exists_lines_append {text further : List Char} (continued : ContinuedBy text further) :
    ∃ texts more, lines (text ++ further) = texts ++ more ∧
      List.Forall₂ LineOf texts (lines text) := by
  induction text using byLines with
  | last line feedless =>
      by_cases empty : line = []
      · subst empty
        exact ⟨[], lines further, rfl, .nil⟩
      · have single : lines line = [line] := by
          rw [lines_of_feedless feedless, if_neg (by simpa using empty)]
        rw [single]
        rcases continued with rfl | ends | ⟨rest, rfl⟩ | ⟨rest, rfl⟩
        · exact (empty rfl).elim
        · exact (feedless (List.mem_of_getLast? ends)).elim
        · refine ⟨[dropReturn line], lines rest, ?_, .cons (.inr rfl) .nil⟩
          exact lines_append_feed feedless rest
        · refine ⟨[line], lines rest, ?_, .cons (.inl rfl) .nil⟩
          have returned : '\n' ∉ line ++ ['\r'] := by simp [feedless]
          have split := lines_append_feed returned rest
          rwa [dropReturn_append_return, List.append_assoc] at split
  | feed line rest feedless ih =>
      obtain ⟨texts, more, split, same⟩ := ih continued.of_append_feed
      refine ⟨dropReturn line :: texts, more, ?_, ?_⟩
      · rw [List.append_assoc, List.cons_append, lines_append_feed feedless, split,
          List.cons_append]
      · rw [lines_append_feed feedless]
        exact .cons (.inl rfl) same

end MarkerReport.Text

namespace MarkerReport.ScopeMap

/-- A map that goes on where another one ends agrees with it on the lines of that one. -/
theorem scopeFor_eq_of_prefix {map longer : ScopeMap} (extended : map.names <+: longer.names)
    {number : Nat} (within : number ≤ map.size) : longer.scopeFor number = map.scopeFor number := by
  cases number with
  | zero => rfl
  | succ index =>
      obtain ⟨more, names⟩ := extended
      rw [scopeFor, scopeFor, ← names, List.getElem?_append_left within]

end MarkerReport.ScopeMap

namespace MarkerReport.Equation

/-- The name that the line with the given number introduces, lines being counted from one. -/
def nameAt? (texts : List (List Char)) : (number : Nat) → Option (List Char)
  | 0 => none
  | index + 1 => texts[index]?.bind scopeName?

/-- The numbers of the lines up to the given one that introduce a name. -/
def introducing (texts : List (List Char)) (number : Nat) : Set Nat :=
  {earlier | earlier ≤ number ∧ (nameAt? texts earlier).isSome}

/-- A line keeps the scope of the line above it, unless it introduces a name. -/
theorem getElem?_scopesFrom (current : String) {texts : List (List Char)} {index : Nat}
    (within : index < texts.length) :
    (scopesFrom current texts)[index]? =
      ((nameAt? texts (index + 1)).map String.ofList).or
        (current :: scopesFrom current texts)[index]? := by
  induction texts generalizing current index with
  | nil => simp at within
  | cons line later ih =>
      rw [scopesFrom]
      cases index with
      | zero => cases named : scopeName? line <;> simp [nameAt?, named]
      | succ index =>
          rw [List.getElem?_cons_succ, List.getElem?_cons_succ]
          exact ih _ (Nat.lt_of_succ_lt_succ within)

/-- The scope of a line is the name it introduces, or else the scope of the line above. -/
theorem scopeFor_succ {source : List Char} {number : Nat}
    (within : number < (Text.lines source).length) :
    (scopeMap source).scopeFor (number + 1) =
      ((nameAt? (Text.lines source) (number + 1)).map String.ofList).getD
        ((scopeMap source).scopeFor number) := by
  have step := getElem?_scopesFrom moduleScope within
  rw [ScopeMap.scopeFor, scopeMap, step]
  cases nameAt? (Text.lines source) (number + 1) with
  | some name => rfl
  | none =>
      rw [Option.map_none, Option.none_or, Option.getD_none]
      cases number <;> rfl

/-- A line that introduces no name adds nothing to the lines that do. -/
theorem introducing_succ_of_none {texts : List (List Char)} {number : Nat}
    (unnamed : nameAt? texts (number + 1) = none) :
    introducing texts (number + 1) = introducing texts number := by
  ext earlier
  simp only [introducing, Set.mem_ofPred_eq, Nat.le_succ_iff]
  constructor
  · rintro ⟨above | rfl, named⟩
    · exact ⟨above, named⟩
    · simp [unnamed] at named
  · rintro ⟨above, named⟩
    exact ⟨.inl above, named⟩

/-- The scope of a line is the name that the last line of those up to it introduces, if one of them
introduces a name. -/
theorem scopeFor_latest (source : List Char) {number : Nat}
    (within : number ≤ (Text.lines source).length) :
    (∃ latest name, IsGreatest (introducing (Text.lines source) number) latest ∧
      nameAt? (Text.lines source) latest = some name ∧
      (scopeMap source).scopeFor number = String.ofList name) ∨
    introducing (Text.lines source) number = ∅ ∧
      (scopeMap source).scopeFor number = moduleScope := by
  induction number with
  | zero =>
      refine .inr ⟨?_, rfl⟩
      ext earlier
      simp only [introducing, Set.mem_ofPred_eq, Nat.le_zero, Set.mem_empty_iff_false, iff_false]
      rintro ⟨rfl, named⟩
      simp [nameAt?] at named
  | succ number ih =>
      rw [scopeFor_succ within]
      cases named : nameAt? (Text.lines source) (number + 1) with
      | some name =>
          refine .inl ⟨number + 1, name, ⟨⟨Nat.le_refl _, by simp [named]⟩, ?_⟩, named, rfl⟩
          exact fun earlier member => member.1
      | none =>
          rw [introducing_succ_of_none named]
          exact ih (Nat.le_of_succ_le within)

/-- Lines that follow leave the scopes of those above as they are. -/
theorem scopesFrom_append (current : String) (texts more : List (List Char)) :
    scopesFrom current texts <+: scopesFrom current (texts ++ more) := by
  induction texts generalizing current with
  | nil => exact List.nil_prefix
  | cons line later ih =>
      rw [List.cons_append, scopesFrom, scopesFrom, List.prefix_cons_inj]
      exact ih _

/-- Lines that follow do not change the scopes of those above them. -/
theorem names_prefix_of_continuedBy {source further : List Char}
    (continued : Text.ContinuedBy source further) :
    (scopeMap source).names <+: (scopeMap (source ++ further)).names := by
  obtain ⟨texts, more, split, same⟩ := Text.exists_lines_append continued
  rw [scopeMap, scopeMap, split, ← scopesFrom_of_lineOf same]
  exact scopesFrom_append moduleScope texts more

/-- A file of signatures and equations has a scope for each of its lines: the name that is
introduced by the last line at or above it that introduces one, or the module if there is none.
Further lines do not change the scopes of the lines before them. -/
theorem scopeMap_names_latest (source : List Char) :
    (scopeMap source).size = (Text.lines source).length ∧
    (∀ number, number ≤ (Text.lines source).length →
      (∃ latest name, IsGreatest (introducing (Text.lines source) number) latest ∧
        nameAt? (Text.lines source) latest = some name ∧
        (scopeMap source).scopeFor number = String.ofList name) ∨
      introducing (Text.lines source) number = ∅ ∧
        (scopeMap source).scopeFor number = moduleScope) ∧
    ∀ further, Text.ContinuedBy source further → ∀ number, number ≤ (Text.lines source).length →
      (scopeMap (source ++ further)).scopeFor number = (scopeMap source).scopeFor number := by
  have size : (scopeMap source).size = (Text.lines source).length :=
    ScopeMap.length_scopesFrom moduleScope (Text.lines source)
  refine ⟨size, fun number => scopeFor_latest source, ?_⟩
  intro further continued number within
  rw [← size] at within
  exact ScopeMap.scopeFor_eq_of_prefix (names_prefix_of_continuedBy continued) within

/-- A signature two lines up, and a last line that loses its carriage return when the file goes
on. -/
theorem scopeMap_names_latest_continued :
    Text.ContinuedBy "module M where\n\nf :: Int\r\n\nx' y = 2\r".toList "\ng = 3".toList ∧
    Text.lines "module M where\n\nf :: Int\r\n\nx' y = 2\r".toList =
      ["module M where".toList, [], "f :: Int".toList, [], "x' y = 2\r".toList] ∧
    (scopeMap "module M where\n\nf :: Int\r\n\nx' y = 2\r".toList).names =
      ["<module>", "<module>", "f", "f", "x'"] ∧
    (∃ latest name, IsGreatest (introducing (Text.lines
        "module M where\n\nf :: Int\r\n\nx' y = 2\r".toList) 4) latest ∧
      nameAt? (Text.lines "module M where\n\nf :: Int\r\n\nx' y = 2\r".toList) latest =
        some name ∧ "f" = String.ofList name) ∧
    (scopeMap ("module M where\n\nf :: Int\r\n\nx' y = 2\r".toList ++
      "\ng = 3".toList)).scopeFor 5 = "x'" := by
  have continued : Text.ContinuedBy
      "module M where\n\nf :: Int\r\n\nx' y = 2\r".toList "\ng = 3".toList := by
    decide +kernel
  have split : Text.lines "module M where\n\nf :: Int\r\n\nx' y = 2\r".toList =
      ["module M where".toList, [], "f :: Int".toList, [], "x' y = 2\r".toList] := by
    decide +kernel
  have scopes : scopeMap "module M where\n\nf :: Int\r\n\nx' y = 2\r".toList =
      ⟨["<module>", "<module>", "f", "f", "x'"]⟩ := by
    decide +kernel
  obtain ⟨-, latest, unchanged⟩ :=
    scopeMap_names_latest "module M where\n\nf :: Int\r\n\nx' y = 2\r".toList
  rw [scopes] at latest unchanged
  refine ⟨continued, split, by rw [scopes], ?_, ?_⟩
  · obtain named | ⟨-, module⟩ := latest 4 (by rw [split]; decide)
    · exact named
    · exact absurd module (by decide)
  · exact unchanged _ continued 5 (by rw [split]; decide)

end MarkerReport.Equation
