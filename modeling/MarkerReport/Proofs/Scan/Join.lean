import Mathlib.Data.List.Forall2
import MarkerReport.Proofs.Marker.Words
import MarkerReport.Scan.Scanner

/-! # Findings joined with files and scopes

A scan makes one item of each finding, and of each file either all its items or none. The findings
decide which items there are; whether scopes are resolved, and whether that works out, only decides
what the items say of their scope. Files do not affect each other
(`MarkerReport.Scanner.items_join_findings`).
-/

namespace MarkerReport

/-- The item with nothing said of its scope. -/
def Item.withoutScope (item : Item) : Item := { item with scope := none }

/-- Whether a path leads to a file with the given text. -/
def FileTree.HoldsText (tree : FileTree) (path : String) (text : List Char) : Prop :=
  ∃ content, tree.read path = .ok content ∧ Utf8.decode content = .ok text

namespace Scanner

/-- How an item of a scan with the given settings comes from a finding in a source text. -/
structure Joins (settings : Settings) (path : String) (source : List Char) (item : Item)
    (finding : Finding) : Prop where
  file_eq : item.file = path
  line_eq : item.line = finding.line
  kind_eq : item.kind = finding.kind
  text_eq : item.text = finding.text
  unscoped : settings.resolveScopes = false → item.scope = none
  resolved : settings.resolveScopes = true →
    ∀ map, ScopeMap.resolve (.forPath path) source = .ok map →
      item.scope = some (map.scopeFor finding.line)
  unresolved : settings.resolveScopes = true →
    ∀ error, ScopeMap.resolve (.forPath path) source = .error error →
      item.scope = some "<module>"

/-- What a file contributes to a scan: the items of its text, or nothing if it has none. -/
def Contributes (scanner : Scanner) (tree : FileTree) (path : String) (items : List Item) : Prop :=
  (∃ source, tree.HoldsText path source ∧ items = scanner.scanSource path source) ∨
    (∀ source, ¬ tree.HoldsText path source) ∧ items = []

/-- A scanner is made exactly from settings that are valid and whose keywords are accepted. -/
theorem ofSettings_eq_ok_iff {settings : Settings} {scanner : Scanner} :
    ofSettings settings = .ok scanner ↔
      settings.validate = .ok () ∧ scanner.settings = settings ∧
        settings.keywords = .ok scanner.keywords := by
  unfold ofSettings
  cases settings.validate with
  | error fault => simp [bind, Except.bind]
  | ok _ =>
      cases settings.keywords with
      | error fault => simp [bind, Except.bind]
      | ok keywords =>
          obtain ⟨own, words⟩ := scanner
          simp [bind, Except.bind, pure, Except.pure, eq_comm]

/-- The scope that the items of a source text give for a line. -/
def scopeOf (settings : Settings) (path : String) (source : List Char) (line : Nat) :
    Option String :=
  if settings.resolveScopes then some ((scopes path source).scopeFor line) else none

/-- The items of a source are its findings, each with the scope of its line. -/
theorem scanSource_eq_map (scanner : Scanner) (path : String) (source : List Char) :
    scanner.scanSource path source = (scanner.findings source).map fun finding =>
      .ofFinding path (scopeOf scanner.settings path source finding.line) finding := by
  unfold scanSource scopeOf
  cases scanner.findings source with
  | nil => rfl
  | cons first later => cases scanner.settings.resolveScopes <;> rfl

/-- A source whose scopes are resolved has the map of the strategy of its path. -/
theorem scopes_of_resolve {path : String} {source : List Char} {map : ScopeMap}
    (resolved : ScopeMap.resolve (.forPath path) source = .ok map) :
    scopes path source = map := by
  rw [scopes, ScopeMap.resolveFor, resolved]
  rfl

/-- A source whose scopes cannot be resolved has the empty map. -/
theorem scopes_of_unresolved {path : String} {source : List Char} {error : Error}
    (rejected : ScopeMap.resolve (.forPath path) source = .error error) :
    scopes path source = .empty := by
  rw [scopes, ScopeMap.resolveFor, rejected]
  rfl

/-- In the empty map every line belongs to the module. -/
@[simp] theorem scopeFor_empty (line : Nat) : ScopeMap.empty.scopeFor line = moduleScope := by
  cases line <;> rfl

/-- The item made of a finding joins it with the scope of its line. -/
theorem joins_ofFinding (settings : Settings) (path : String) (source : List Char)
    (finding : Finding) :
    Joins settings path source
      (.ofFinding path (scopeOf settings path source finding.line) finding) finding where
  file_eq := rfl
  line_eq := rfl
  kind_eq := rfl
  text_eq := rfl
  unscoped off := by simp [Item.ofFinding, scopeOf, off]
  resolved on map resolved := by
    simp [Item.ofFinding, scopeOf, on, scopes_of_resolve resolved]
  unresolved on error rejected := by
    simp [Item.ofFinding, scopeOf, on, scopes_of_unresolved rejected, moduleScope]

/-- The items of a source and its findings correspond one to one, in order. -/
theorem forall₂_scanSource (scanner : Scanner) (path : String) (source : List Char) :
    List.Forall₂ (Joins scanner.settings path source) (scanner.scanSource path source)
      (scanner.findings source) := by
  rw [scanSource_eq_map, List.forall₂_map_left_iff, List.forall₂_same]
  exact fun finding _ => joins_ofFinding scanner.settings path source finding

/-- Up to their scopes, the items depend on the policy and on the keywords alone. -/
theorem scanSource_withoutScope (scanner : Scanner) (path : String) (source : List Char) :
    (scanner.scanSource path source).map Item.withoutScope =
      (scanner.findings source).map (.ofFinding path none) := by
  rw [scanSource_eq_map, List.map_map]
  rfl

/-- A source is read exactly where the path leads to a file that holds it as text. -/
theorem readSource_eq_ok_iff {tree : FileTree} {path : String} {source : List Char} :
    tree.readSource path = .ok source ↔ tree.HoldsText path source := by
  unfold FileTree.readSource FileTree.HoldsText FileTree.decodeSource
  cases tree.read path with
  | error cause => simp
  | ok content =>
      cases decoded : Utf8.decode content with
      | error fault => simp [decoded]
      | ok text => simp [decoded]

/-- A file that holds a text contributes the items of that text. -/
theorem scanFile_of_holdsText {tree : FileTree} {path : String} {source : List Char}
    (holds : tree.HoldsText path source) (scanner : Scanner) :
    scanner.scanFile tree path = scanner.scanSource path source := by
  rw [scanFile, readSource_eq_ok_iff.mpr holds]

/-- A path that leads to no text contributes nothing, and stops nothing. -/
theorem scanFile_of_textless {tree : FileTree} {path : String}
    (textless : ∀ source, ¬ tree.HoldsText path source) (scanner : Scanner) :
    scanner.scanFile tree path = [] := by
  unfold scanFile
  cases read : tree.readSource path with
  | error fault => rfl
  | ok source => exact (textless source (readSource_eq_ok_iff.mp read)).elim

/-- What is scanned at a path is what the path contributes. -/
theorem contributes_scanFile (scanner : Scanner) (tree : FileTree) (path : String) :
    scanner.Contributes tree path (scanner.scanFile tree path) := by
  by_cases readable : ∃ source, tree.HoldsText path source
  · obtain ⟨source, holds⟩ := readable
    exact .inl ⟨source, holds, scanFile_of_holdsText holds scanner⟩
  · have textless := not_exists.mp readable
    exact .inr ⟨textless, scanFile_of_textless textless scanner⟩

/-- Apart from the scopes, the items of a file depend on the policy and the keywords only. -/
theorem scanFile_withoutScope {scanner other : Scanner}
    (policy : other.settings.policy = scanner.settings.policy)
    (keywords : other.keywords = scanner.keywords) (tree : FileTree) (path : String) :
    (other.scanFile tree path).map Item.withoutScope =
      (scanner.scanFile tree path).map Item.withoutScope := by
  unfold scanFile
  cases tree.readSource path with
  | error fault => rfl
  | ok source =>
      change (other.scanSource path source).map _ = (scanner.scanSource path source).map _
      rw [scanSource_withoutScope, scanSource_withoutScope, findings, findings, policy, keywords]

/-- The items of several files come file by file, in the order of the paths. -/
theorem toList_scanFiles (scanner : Scanner) (tree : FileTree) (paths : List String) :
    (scanner.scanFiles tree paths).toList = paths.flatMap (scanner.scanFile tree) :=
  Outcome.toList_ofItems _

/-- Every item of a file is an item of its source. -/
theorem exists_source_of_mem_scanFile {scanner : Scanner} {tree : FileTree} {path : String}
    {item : Item} (found : item ∈ scanner.scanFile tree path) :
    ∃ source, item ∈ scanner.scanSource path source := by
  rcases contributes_scanFile scanner tree path with ⟨source, -, same⟩ | ⟨-, nothing⟩
  · exact ⟨source, same ▸ found⟩
  · simp [nothing] at found

/-- Every item of several files is an item of one of their sources. -/
theorem exists_source_of_mem_scanFiles {scanner : Scanner} {tree : FileTree} {paths : List String}
    {item : Item} (found : item ∈ (scanner.scanFiles tree paths).toList) :
    ∃ path source, item ∈ scanner.scanSource path source := by
  rw [toList_scanFiles, List.mem_flatMap] at found
  obtain ⟨path, -, member⟩ := found
  exact ⟨path, exists_source_of_mem_scanFile member⟩

/-- A scan that looks at one file has the items of its text. -/
theorem scan_of_discover {scanner : Scanner} {tree : FileTree} {root path : String}
    {source : List Char} (discovered : tree.discover scanner.settings root = .ok [path])
    (read : tree.readSource path = .ok source) :
    scanner.scan tree root = .ok (.ofItems (scanner.scanSource path source)) := by
  rw [scan, discovered]
  change Except.ok (scanFiles _ tree [path]) = _
  rw [scanFiles, List.flatMap_singleton, scanFile, read]

/-- Whatever a scan finds, it finds in a source text. -/
theorem exists_source_of_mem_scan {scanner : Scanner} {tree : FileTree} {root : String}
    {outcome : Outcome} (scanned : scanner.scan tree root = .ok outcome) {item : Item}
    (found : item ∈ outcome.toList) :
    ∃ path source, item ∈ scanner.scanSource path source := by
  obtain ⟨paths, -, listed⟩ := bind_eq_ok_iff.mp scanned
  obtain rfl := Except.ok.inj listed
  exact exists_source_of_mem_scanFiles found

/-- An item has a scope exactly when scopes are resolved. -/
theorem isSome_scope_of_mem_scanSource {scanner : Scanner} {path : String} {source : List Char}
    {item : Item} (found : item ∈ scanner.scanSource path source) :
    item.scope.isSome = scanner.settings.resolveScopes := by
  rw [scanSource_eq_map, List.mem_map] at found
  obtain ⟨finding, -, rfl⟩ := found
  cases resolved : scanner.settings.resolveScopes <;> simp [Item.ofFinding, scopeOf, resolved]

/-- A scanner for settings that differ in whether scopes are resolved. -/
theorem ofSettings_resolveScopes {settings : Settings} {scanner : Scanner}
    (ready : ofSettings settings = .ok scanner) (flag : Bool) :
    ofSettings { settings with resolveScopes := flag } =
      .ok ⟨{ settings with resolveScopes := flag }, scanner.keywords⟩ := by
  obtain ⟨valid, -, accepted⟩ := ofSettings_eq_ok_iff.mp ready
  -- Neither the checks nor the keywords look at the flag.
  exact ofSettings_eq_ok_iff.mpr ⟨valid, rfl, accepted⟩

/-- The items of a source text are its findings one by one, each with its file and its scope. The
scanner that resolves scopes and the one that does not find the same items. A scan of several files
gives the items of one file after the other; a file without text adds none and might as well not be
there. -/
theorem items_join_findings {settings : Settings} {scanner : Scanner}
    (ready : ofSettings settings = .ok scanner) :
    settings.keywords = .ok scanner.keywords ∧
    (∀ path source, List.Forall₂ (Joins settings path source) (scanner.scanSource path source)
      (Finding.extract settings.policy scanner.keywords source)) ∧
    (∀ flag, ∃ other, ofSettings { settings with resolveScopes := flag } = .ok other ∧
      (∀ path source, (other.scanSource path source).map Item.withoutScope =
        (scanner.scanSource path source).map Item.withoutScope) ∧
      ∀ tree paths, (other.scanFiles tree paths).toList.map Item.withoutScope =
        (scanner.scanFiles tree paths).toList.map Item.withoutScope) ∧
    (∀ tree paths, ∃ parts, List.Forall₂ (scanner.Contributes tree) paths parts ∧
      (scanner.scanFiles tree paths).toList = parts.flatten ∧
      (scanner.scanFiles tree paths = .noItems ↔ parts.flatten = [])) ∧
    ∀ tree before path after, (∀ source, ¬ tree.HoldsText path source) →
      scanner.scanFiles tree (before ++ path :: after) =
        scanner.scanFiles tree (before ++ after) := by
  obtain ⟨-, rfl, accepted⟩ := ofSettings_eq_ok_iff.mp ready
  refine ⟨accepted, forall₂_scanSource scanner, fun flag => ?_, fun tree paths => ?_, ?_⟩
  · refine ⟨_, ofSettings_resolveScopes ready flag, fun path source => ?_, fun tree paths => ?_⟩
    · rw [scanSource_withoutScope, scanSource_withoutScope]
      rfl
    · rw [toList_scanFiles, toList_scanFiles, List.map_flatMap, List.map_flatMap]
      congr 1
      funext path
      apply scanFile_withoutScope <;> rfl
  · refine ⟨paths.map (scanner.scanFile tree), ?_, toList_scanFiles scanner tree paths,
      Outcome.ofItems_eq_noItems_iff _⟩
    rw [List.forall₂_map_right_iff, List.forall₂_same]
    exact fun path _ => contributes_scanFile scanner tree path
  · intro tree before path after textless
    rw [scanFiles, scanFiles, List.flatMap_append, List.flatMap_cons,
      scanFile_of_textless textless, List.nil_append, List.flatMap_append]

/-- A file that is not UTF-8 and a file that is not there are passed over, and a source with an
outdated statement keeps its finding. -/
theorem items_join_findings_mixed :
    ofSettings .default = .ok ⟨.default, .default⟩ ∧
    ScopeMap.resolve (.forPath "old.py") "print x # todo: c".toList =
      .error (.parse "python" "print_statement is not valid Python 3" none (some ⟨1, 1⟩)) ∧
    List.Forall₂ (Joins .default "old.py" "print x # todo: c".toList)
      (scanSource ⟨.default, .default⟩ "old.py" "print x # todo: c".toList) [⟨1, "TODO", "c"⟩] ∧
    scanFiles ⟨.default, .default⟩ ⟨[(["a.py"], .file [0x23, 0xFF])], []⟩ ["b.py", "a.py", "c.py"] =
      scanFiles ⟨.default, .default⟩ ⟨[(["a.py"], .file [0x23, 0xFF])], []⟩ ["b.py", "c.py"] := by
  have ready : ofSettings .default = .ok ⟨.default, .default⟩ := by decide +kernel
  have areWords : Keywords.default.AreWords := by decide +kernel
  have found : Finding.extract .comment .default "print x # todo: c".toList =
      [⟨1, "TODO", "c"⟩] := by
    simp only [Finding.extract, Finding.inComments, Finding.inComment_eq_of_areWords areWords]
    decide +kernel
  obtain ⟨-, joined, -, -, skipped⟩ := items_join_findings ready
  refine ⟨ready, by decide +kernel, found ▸ joined "old.py" "print x # todo: c".toList, ?_⟩
  apply skipped _ ["b.py"] "a.py" ["c.py"]
  rintro source ⟨content, read, decoded⟩
  have steps : Step.ofPath? "a.py" = some [.enter "a.py"] := by decide +kernel
  have bytes : FileTree.read ⟨[(["a.py"], .file [0x23, 0xFF])], []⟩ "a.py" = .ok [0x23, 0xFF] := by
    simp [FileTree.read, FileTree.find, FileTree.locate, steps, FileTree.follow, FileTree.lookup]
  obtain rfl := Except.ok.inj (bytes.symm.trans read)
  have fault : Utf8.decode [0x23, 0xFF] = .error ⟨1, some 1⟩ := by decide +kernel
  rw [fault] at decoded
  cases decoded

end Scanner

end MarkerReport
