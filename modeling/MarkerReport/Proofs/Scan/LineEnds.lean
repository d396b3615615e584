import MarkerReport.Proofs.Comment.Returns
import MarkerReport.Proofs.Marker.Lines
import MarkerReport.Proofs.Marker.Words
import MarkerReport.Scope.Equation

/-! # Line ends

Whether the lines of a source end in a line feed alone or in a carriage return and a line feed makes
no difference to what is found in it, under either policy, nor to the scopes that are read off
signatures and equations (`MarkerReport.Finding.extract_withReturns`). A source that has carriage
returns already gets further ones, which then stand at the ends of its lines.
-/

namespace MarkerReport.Text

/-- The line is the other one, which may have lost a carriage return. -/
def LineOf (line other : List Char) : Prop := line = other ∨ line = dropReturn other

theorem withReturns_of_feedless {cs : List Char} (feedless : '\n' ∉ cs) : withReturns cs = cs := by
  induction cs with
  | nil => rfl
  | cons c cs ih =>
      rw [List.mem_cons, not_or] at feedless
      rw [withReturns, List.flatMap_cons, if_neg (Ne.symm feedless.1), ← withReturns,
        ih feedless.2, List.singleton_append]

/-- The first line gets its return before its feed, and the rest goes on alike. -/
theorem withReturns_append_feed {line : List Char} (feedless : '\n' ∉ line) (rest : List Char) :
    withReturns (line ++ '\n' :: rest) = line ++ ['\r'] ++ '\n' :: withReturns rest := by
  rw [withReturns, List.flatMap_append, ← withReturns, withReturns_of_feedless feedless,
    List.flatMap_cons, if_pos rfl, ← withReturns, List.append_assoc, List.cons_append,
    List.cons_append, List.nil_append, List.singleton_append]

/-- A carriage return that is put in is lost again with the line feed, so that one that was there
before is kept. -/
theorem forall₂_lines_withReturns (cs : List Char) :
    List.Forall₂ LineOf (lines cs) (lines (withReturns cs)) := by
  induction cs using byLines with
  | last line feedless =>
      rw [withReturns_of_feedless feedless]
      exact List.forall₂_same.mpr fun _ _ => .inl rfl
  | feed line rest feedless ih =>
      have returned : '\n' ∉ line ++ ['\r'] := by
        rw [List.mem_append, not_or]
        exact ⟨feedless, by decide⟩
      rw [withReturns_append_feed feedless, lines_append_feed feedless, lines_append_feed returned,
        dropReturn_append_return]
      exact .cons (.inr rfl) ih

end MarkerReport.Text

namespace MarkerReport.Equation

open Comment (untilFeed)
open Text (LineOf)

/-- A line is a signature or an equation by what follows the blanks behind its name. -/
theorem introduces_iff (after : List Char) :
    introduces after ↔
      [':', ':'] <+: after.dropWhile Text.isBlank ∨
        after.takeWhile Text.isBlank ≠ [] ∧ '=' ∈ untilFeed (after.dropWhile Text.isBlank) := by
  dsimp only [introduces]
  split
  · rename_i rest body
    rw [body]
    exact iff_of_true rfl (.inl (List.prefix_append [':', ':'] rest))
  · rename_i other
    have plain : ¬ [':', ':'] <+: after.dropWhile Text.isBlank := by
      rintro ⟨rest, body⟩
      exact other rest body.symm
    simp [plain, untilFeed]

/-- A return at the end of a text changes nothing else about its first line. -/
theorem mem_untilFeed_append_return {c : Char} (other : c ≠ '\r') (cs : List Char) :
    c ∈ untilFeed (cs ++ ['\r']) ↔ c ∈ untilFeed cs := by
  rcases Finding.untilFeed_of_returned (.append_return cs) with same | longer
  · rw [same]
  · rw [longer, List.mem_append, List.mem_singleton, or_iff_left other]

/-- A word without returns leads a text with and without a return at its end. -/
theorem prefix_append_return {word : List Char} (unreturned : '\r' ∉ word) (cs : List Char) :
    word <+: cs ++ ['\r'] ↔ word <+: cs := by
  constructor
  · rintro ⟨rest, whole⟩
    have returned : Text.Returned cs (word ++ rest) := whole ▸ .append_return cs
    obtain ⟨behind, rfl, -⟩ := returned.of_append_right unreturned
    exact List.prefix_append word behind
  · exact fun leads => leads.trans (List.prefix_append cs _)

/-- A carriage return at the end is no part of a signature or an equation. -/
theorem introduces_append_return (after : List Char) :
    introduces (after ++ ['\r']) = introduces after := by
  rw [Bool.eq_iff_iff, introduces_iff, introduces_iff]
  by_cases blank : after.dropWhile Text.isBlank = []
  · have body : (after ++ ['\r']).dropWhile Text.isBlank = [] := by
      rw [List.dropWhile_append, blank]
      rfl
    rw [blank, body]
    simp [untilFeed]
  · have body : (after ++ ['\r']).dropWhile Text.isBlank =
        after.dropWhile Text.isBlank ++ ['\r'] := by
      rw [List.dropWhile_append, if_neg (by simpa using blank)]
    have blanks : (after ++ ['\r']).takeWhile Text.isBlank ≠ [] ↔
        after.takeWhile Text.isBlank ≠ [] := by
      cases after with
      | nil => exact (blank rfl).elim
      | cons c after =>
          rw [List.cons_append, List.takeWhile_cons, List.takeWhile_cons]
          split <;> simp
    rw [body, blanks, prefix_append_return (by decide), mem_untilFeed_append_return (by decide)]

/-- The name at the start of a line is the same with a return at its end, which stays in the rest.
-/
theorem leadingName?_append_return (line : List Char) :
    leadingName? (line ++ ['\r']) =
      (leadingName? line).map fun (name, after) => (name, after ++ ['\r']) := by
  cases line with
  | nil => rfl
  | cons c rest =>
      have stops : continuesName '\r' = false := by decide
      have split : (rest ++ ['\r']).takeWhile continuesName = rest.takeWhile continuesName ∧
          (rest ++ ['\r']).dropWhile continuesName = rest.dropWhile continuesName ++ ['\r'] := by
        induction rest with
        | nil => simp [stops]
        | cons d rest ih => by_cases continued : continuesName d <;> simp [continued, ih]
      rw [List.cons_append, leadingName?, leadingName?, split.1, split.2]
      split <;> rfl

/-- A line introduces the same name with and without a return at its end. -/
theorem scopeName?_append_return (line : List Char) :
    scopeName? (line ++ ['\r']) = scopeName? line := by
  rw [scopeName?, scopeName?, leadingName?_append_return]
  cases leadingName? line with
  | none => rfl
  | some parts => simp only [Option.map_some, introduces_append_return]

/-- Lines that differ in a return at the end introduce the same name. -/
theorem scopeName?_of_lineOf {line other : List Char} (same : LineOf line other) :
    scopeName? line = scopeName? other := by
  rcases same with rfl | rfl
  · rfl
  · rcases Text.eq_dropReturn_or other with same | longer
    · rw [← same]
    · rw [longer, Text.dropReturn_append_return, scopeName?_append_return]

/-- Sources whose lines differ in returns at the end have the same scopes. -/
theorem scopesFrom_of_lineOf {texts others : List (List Char)}
    (same : List.Forall₂ LineOf texts others) (current : String) :
    scopesFrom current texts = scopesFrom current others := by
  induction same generalizing current with
  | nil => rfl
  | cons line later ih => rw [scopesFrom, scopesFrom, scopeName?_of_lineOf line, ih]

end MarkerReport.Equation

namespace MarkerReport.Finding

open Comment Occurrence
open Text (LineOf)

section

variable {keywords : Keywords} (unbroken : Unbroken keywords.spellings)

include unbroken

/-- Sources whose lines differ in returns at the end have the same findings on lines. -/
theorem onLinesFrom_of_lineOf {texts others : List (List Char)}
    (same : List.Forall₂ LineOf texts others) (number : Nat) :
    onLinesFrom keywords number texts = onLinesFrom keywords number others := by
  induction same generalizing number with
  | nil => rfl
  | cons line later ih =>
      rw [onLinesFrom, onLinesFrom, ih]
      rcases line with rfl | rfl
      · rfl
      · rw [onLine?_dropReturn unbroken]

/-- Comments that differ in returns have the same findings. -/
theorem flatMap_inComment_of_sameLine {comments others : List Comment}
    (same : List.Forall₂ SameLine comments others) :
    comments.flatMap (inComment keywords) = others.flatMap (inComment keywords) := by
  induction same with
  | nil => rfl
  | cons comment later ih =>
      rw [List.flatMap_cons, List.flatMap_cons,
        inComment_of_returned unbroken comment.line comment.text, ih]

end

/-- A carriage return before every line feed changes neither the findings of a source nor its scopes
by signatures and equations. -/
theorem extract_withReturns (settings : Settings) (valid : settings.validate = .ok ())
    (keywords : Keywords) (accepted : settings.keywords = .ok keywords) (source : List Char) :
    (∀ policy, extract policy keywords (Text.withReturns source) =
      extract policy keywords source) ∧
    Equation.scopeMap (Text.withReturns source) = Equation.scopeMap source := by
  have unbroken := Settings.unbroken_of_validate valid accepted
  have same := Text.forall₂_lines_withReturns source
  refine ⟨fun policy => ?_, ?_⟩
  · cases policy with
    | comment =>
        have comments := forall₂_scan_of_returned (.withReturns source)
        exact (flatMap_inComment_of_sameLine unbroken comments).symm
    | line => exact (onLinesFrom_of_lineOf unbroken same 1).symm
  · exact congrArg ScopeMap.mk (Equation.scopesFrom_of_lineOf same moduleScope).symm

/-- Carriage returns inside a block, before its close, behind a keyword, and twice at the end of a
line. -/
theorem extract_withReturns_twice :
    Settings.default.validate = .ok () ∧ Settings.default.keywords = .ok Keywords.default ∧
    Text.withReturns "/* todo a \n fixme\n*/\nf x = 1 -- TODO: b\r\n".toList =
      "/* todo a \r\n fixme\r\n*/\r\nf x = 1 -- TODO: b\r\r\n".toList ∧
    extract .comment Keywords.default
        "/* todo a \r\n fixme\r\n*/\r\nf x = 1 -- TODO: b\r\r\n".toList =
      [⟨1, "TODO", "a"⟩, ⟨1, "FIXME", ""⟩, ⟨4, "TODO", "b"⟩] ∧
    extract .line Keywords.default
        "/* todo a \r\n fixme\r\n*/\r\nf x = 1 -- TODO: b\r\r\n".toList =
      [⟨4, "TODO", "b"⟩] ∧
    Equation.scopeMap "/* todo a \r\n fixme\r\n*/\r\nf x = 1 -- TODO: b\r\r\n".toList =
      ⟨["<module>", "<module>", "<module>", "f"]⟩ := by
  have valid : Settings.default.validate = .ok () := by decide +kernel
  have accepted : Settings.default.keywords = .ok Keywords.default := by decide +kernel
  have areWords : Keywords.default.AreWords := by decide +kernel
  have returned : Text.withReturns "/* todo a \n fixme\n*/\nf x = 1 -- TODO: b\r\n".toList =
      "/* todo a \r\n fixme\r\n*/\r\nf x = 1 -- TODO: b\r\r\n".toList := by decide +kernel
  obtain ⟨findings, scopes⟩ := extract_withReturns Settings.default valid Keywords.default accepted
    "/* todo a \n fixme\n*/\nf x = 1 -- TODO: b\r\n".toList
  rw [returned] at findings scopes
  refine ⟨valid, accepted, returned, ?_, ?_, ?_⟩
  · rw [findings]
    simp only [extract, inComments, inComment_eq_of_areWords areWords]
    decide +kernel
  · rw [findings]
    decide +kernel
  · rw [scopes]
    decide +kernel

end MarkerReport.Finding
