import MarkerReport.Command.Run
import MarkerReport.Proofs.Scan.Join
import MarkerReport.Proofs.Scan.Selection

/-! # The stages of a scan

A scan settles its settings, makes a scanner, looks for items and writes a report. Only the first
and the last of these stages can fail: settings that pass `Settings.validate` name keywords, their
glob patterns can be read, and a scanner made from them scans whatever it is pointed at
(`MarkerReport.Settings.validate_rules_out_failure`).
-/

namespace MarkerReport

namespace Settings

variable {settings : Settings}

/-- Settings that pass the check have keywords. -/
theorem exists_keywords_of_validate (valid : settings.validate = .ok ()) :
    ∃ keywords, settings.keywords = .ok keywords := by
  obtain ⟨named, -⟩ := settings.validateMarkers_eq_ok_iff.mp (validateMarkers_of_validate valid)
  exact settings.exists_keywords_iff.mpr named

end Settings

namespace Scanner

variable {settings : Settings}

/-- A scanner can be made from settings that pass the check. -/
theorem exists_ofSettings (valid : settings.validate = .ok ()) :
    ∃ scanner, ofSettings settings = .ok scanner := by
  obtain ⟨keywords, accepted⟩ := Settings.exists_keywords_of_validate valid
  exact ⟨⟨settings, keywords⟩, ofSettings_eq_ok_iff.mpr ⟨valid, rfl, accepted⟩⟩

/-- Where no scanner can be made, the complaint is that of the check. -/
theorem ofSettings_eq_error_iff {error : Error} :
    ofSettings settings = .error error ↔ settings.validate = .error error := by
  cases valid : settings.validate with
  | error fault => simp [ofSettings, valid, bind, Except.bind]
  | ok _ =>
      obtain ⟨scanner, ready⟩ := exists_ofSettings valid
      simp [ready]

/-- A scanner never fails, wherever it is pointed. -/
theorem exists_scan {scanner : Scanner} (ready : ofSettings settings = .ok scanner)
    (tree : FileTree) (root : String) : ∃ outcome, scanner.scan tree root = .ok outcome := by
  obtain ⟨valid, rfl, -⟩ := ofSettings_eq_ok_iff.mp ready
  obtain ⟨-, -, globs, compiled⟩ := scanner.settings.validate_eq_ok_iff.mp valid
  rw [scan, FileTree.discover_eq compiled]
  exact ⟨_, rfl⟩

end Scanner

namespace ScanRequest

variable {request : ScanRequest} {tree : FileTree} {settings : Settings}

/-- The settings of a scan have passed the check. -/
theorem validate_of_settings (settled : request.settings tree = .ok settings) :
    settings.validate = .ok () := by
  obtain ⟨layer, -, checked⟩ := bind_eq_ok_iff.mp settled
  obtain ⟨_, valid, same⟩ := bind_eq_ok_iff.mp checked
  obtain rfl := Except.ok.inj same
  exact (Failure.during_eq_ok_iff _ _ _).mp valid

/-- The stages up to the writing of the report. -/
theorem findItems_eq_ok_iff {items : List Item} :
    request.findItems tree = .ok (settings, items) ↔
      request.settings tree = .ok settings ∧
        ∃ scanner, Scanner.ofSettings settings = .ok scanner ∧
          ∃ outcome, scanner.scan tree request.directory = .ok outcome ∧
            outcome.toList = items := by
  simp only [findItems, bind_eq_ok_iff, Failure.during_eq_ok_iff, pure, Except.pure,
    Except.ok.injEq, Prod.mk.injEq]
  constructor
  · rintro ⟨_, settled, scanner, ready, outcome, scanned, rfl, found⟩
    exact ⟨settled, scanner, ready, outcome, scanned, found⟩
  · rintro ⟨settled, scanner, ready, outcome, scanned, found⟩
    exact ⟨_, settled, scanner, ready, outcome, scanned, rfl, found⟩

/-- Once its settings are settled, a scan gets as far as to have its items. -/
theorem exists_findItems (settled : request.settings tree = .ok settings) :
    ∃ items, request.findItems tree = .ok (settings, items) := by
  obtain ⟨scanner, ready⟩ := Scanner.exists_ofSettings (validate_of_settings settled)
  obtain ⟨outcome, scanned⟩ := Scanner.exists_scan ready tree request.directory
  exact ⟨_, findItems_eq_ok_iff.mpr ⟨settled, scanner, ready, outcome, scanned, rfl⟩⟩

/-- A scan that finds nothing says so and leaves the files as they are. -/
theorem run_of_no_items (found : request.findItems tree = .ok (settings, []))
    (around : Surroundings) :
    request.run tree around = { tree, outcome := .ok "No TODOs/FIXMEs found.\n" } := by
  rw [run, found]

/-- A scan that finds items writes their report. -/
theorem run_of_items {items : List Item} (found : request.findItems tree = .ok (settings, items))
    (marked : items ≠ []) (around : Surroundings) :
    request.run tree around = request.writeReport tree settings items around := by
  obtain ⟨first, later, rfl⟩ := List.exists_cons_of_ne_nil marked
  rw [run, found]

/-- Writing a report fails just if its file cannot be written, and says which file that is. -/
theorem outcome_writeReport_eq_error_iff {items : List Item} {around : Surroundings}
    {failure : Failure} :
    (request.writeReport tree settings items around).outcome = .error failure ↔
      ∃ cause, ((request.layout settings).write request.directory items tree
          request.outputPath around).2 = .error cause ∧
        failure = ⟨["Failed to write " ++ request.outputPath], cause⟩ := by
  simp only [writeReport]
  cases ((request.layout settings).write request.directory items tree request.outputPath
      around).2 with
  | error cause => simp [Failure.during, Except.map, eq_comm]
  | ok _ => simp [Failure.during, Except.map]

end ScanRequest

/-- A scanner can be made from settings that pass the check and from no others, and from those the
complaint is that of the check. Such a scanner has its keywords and its glob patterns and scans any
path of any tree. So a scan whose settings are settled finds its items, and fails only if there are
some and their report cannot be written, whatever hinders that. -/
theorem Settings.validate_rules_out_failure (settings : Settings) :
    ((∃ scanner, Scanner.ofSettings settings = .ok scanner) ↔ settings.validate = .ok ()) ∧
    (∀ error, Scanner.ofSettings settings = .error error ↔ settings.validate = .error error) ∧
    (settings.validate = .ok () → (∃ keywords, settings.keywords = .ok keywords) ∧
      ∃ globs, settings.excludeGlobs = .ok globs) ∧
    (∀ scanner, Scanner.ofSettings settings = .ok scanner →
      ∀ tree root, ∃ outcome, scanner.scan tree root = .ok outcome) ∧
    ∀ (request : ScanRequest) (tree : FileTree), request.settings tree = .ok settings →
      ∃ items, request.findItems tree = .ok (settings, items) ∧
        ∀ around failure, (request.run tree around).outcome = .error failure ↔ items ≠ [] ∧
          ∃ cause, ((request.layout settings).write request.directory items tree
              request.outputPath around).2 = .error cause ∧
            failure = ⟨["Failed to write " ++ request.outputPath], cause⟩ := by
  refine ⟨⟨?_, Scanner.exists_ofSettings⟩, fun _ => Scanner.ofSettings_eq_error_iff, ?_,
    fun _ => Scanner.exists_scan, ?_⟩
  · rintro ⟨scanner, ready⟩
    exact (Scanner.ofSettings_eq_ok_iff.mp ready).1
  · intro valid
    exact ⟨exists_keywords_of_validate valid, (settings.validate_eq_ok_iff.mp valid).2.2⟩
  · intro request tree settled
    obtain ⟨items, found⟩ := ScanRequest.exists_findItems settled
    refine ⟨items, found, fun around failure => ?_⟩
    by_cases unmarked : items = []
    · subst unmarked
      simp [ScanRequest.run_of_no_items found]
    · rw [ScanRequest.run_of_items found unmarked, ScanRequest.outcome_writeReport_eq_error_iff]
      simp [unmarked]

end MarkerReport
