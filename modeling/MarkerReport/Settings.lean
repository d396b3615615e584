import MarkerReport.Error
import MarkerReport.Glob.Match
import MarkerReport.Glob.Parse
import MarkerReport.Language
import MarkerReport.Marker.Finding
import MarkerReport.Text.Character

/-! # Settings of a scan

Settings say which files are looked at, which keywords are looked for and how, and whether findings
carry a scope. Not all settings make sense; `validate` tells those that do, and complains about the
first thing that does not.
-/

namespace MarkerReport

/-- The settings of a scan. -/
structure Settings where
  /-- The extensions of the files to scan. Leading dots do not count. -/
  extensions : List String
  /-- The keywords to look for. -/
  markers : List String
  /-- Where keywords are looked for. -/
  policy : Policy
  /-- Whether findings carry the scope of their line. -/
  resolveScopes : Bool
  /-- Glob patterns of the paths that are left out. -/
  excludes : List String
  /-- Whether symbolic links are followed. -/
  followLinks : Bool
deriving Repr, DecidableEq

namespace Settings

/-- The settings of a scan about which nothing is said. -/
def default : Settings where
  extensions := ["py", "js", "java", "c", "h", "hs"]
  markers := ["TODO", "FIXME"]
  policy := .comment
  resolveScopes := true
  excludes := []
  followLinks := false

instance : Inhabited Settings := ⟨Settings.default⟩

/-- The settings of the first generation of scans: plain lines, and no scopes. -/
def legacy : Settings :=
  { default with
    extensions := ["py", "js", "java", "hs"]
    policy := .line
    resolveScopes := false }

/-- Whether files with the given extension are scanned. Case counts, leading dots do not. -/
def allows (settings : Settings) (extension : String) : Bool :=
  settings.extensions.any fun allowed =>
    Language.trimDots allowed == Language.trimDots extension

/-- Whether the file at a path has an extension that is scanned. -/
def allowsPath (settings : Settings) (path : String) : Bool :=
  (Path.extension? path).any settings.allows

/-- The keywords to look for. -/
def keywords (settings : Settings) : Except Error Keywords :=
  match Keywords.ofList? settings.markers with
  | some keywords => .ok keywords
  | none => .error .noKeywords

/-- Whether a keyword is a single word. -/
def isSingleWord (marker : String) : Bool :=
  !marker.isEmpty && marker.toList.all fun c => Text.isAlphanumeric c || c == '_'

/-- Reads a glob pattern of the settings. -/
def readExclude (pattern : String) : Except Error Glob :=
  match Glob.parse pattern with
  | .ok glob => .ok glob
  | .error fault =>
      .error (.config ("Invalid glob pattern: " ++ fault.message pattern) (some "exclude_patterns"))

/-- The glob patterns of the paths that are left out. -/
def excludeGlobs (settings : Settings) : Except Error (List Glob) :=
  settings.excludes.mapM readExclude

/-- Complains about the extensions. -/
def validateExtensions (settings : Settings) : Except Error Unit :=
  if settings.extensions = [] then
    .error (.config "at least one file extension is required" (some "extensions"))
  else
    match settings.extensions.find? fun extension => Language.trimDots extension = "" with
    | some bad => .error (.config ("invalid extension '" ++ bad ++ "'") (some "extensions"))
    | none => .ok ()

/-- Complains about the keywords. -/
def validateMarkers (settings : Settings) : Except Error Unit :=
  if settings.markers = [] then .error .noKeywords
  else
    match settings.markers.find? fun marker => !isSingleWord marker with
    | some bad =>
        .error (.validation ("marker '" ++ bad ++ "' must be a single word") (some "markers")
          (some "letters, digits or underscores") (some bad))
    | none => .ok ()

/-- Complains about the first thing that does not make sense: extensions, then keywords, then glob
patterns. -/
def validate (settings : Settings) : Except Error Unit := do
  settings.validateExtensions
  settings.validateMarkers
  discard settings.excludeGlobs

theorem validateMarkers_eq_ok_iff (settings : Settings) :
    settings.validateMarkers = .ok () ↔
      settings.markers ≠ [] ∧ ∀ marker ∈ settings.markers, isSingleWord marker := by
  unfold validateMarkers
  by_cases empty : settings.markers = []
  · simp [empty]
  · rw [if_neg empty]
    cases bad : settings.markers.find? fun marker => !isSingleWord marker with
    | some marker =>
        have found := List.find?_some bad
        have member := List.mem_of_find?_eq_some bad
        refine ⟨fun accepted => by simp at accepted, fun single => ?_⟩
        simp [single.2 marker member] at found
    | none =>
        rw [List.find?_eq_none] at bad
        simpa [empty] using bad

theorem validate_eq_ok_iff (settings : Settings) :
    settings.validate = .ok () ↔ settings.validateExtensions = .ok () ∧
      settings.validateMarkers = .ok () ∧ ∃ globs, settings.excludeGlobs = .ok globs := by
  have discarded : discard settings.excludeGlobs = .ok () ↔
      ∃ globs, settings.excludeGlobs = .ok globs := by
    cases settings.excludeGlobs with
    | error fault => simp [discard, Functor.discard, Functor.mapConst, Except.map]
    | ok globs => simp [discard, Functor.discard, Functor.mapConst, Except.map]
  simp only [validate, bind_eq_ok_iff, discarded]
  constructor
  · rintro ⟨_, extensions, _, markers, globs⟩
    exact ⟨extensions, markers, globs⟩
  · rintro ⟨extensions, markers, globs⟩
    exact ⟨(), extensions, (), markers, globs⟩

theorem validateMarkers_of_validate {settings : Settings} (valid : settings.validate = .ok ()) :
    settings.validateMarkers = .ok () :=
  (settings.validate_eq_ok_iff.mp valid).2.1

theorem words_of_keywords {settings : Settings} {keywords : Keywords}
    (accepted : settings.keywords = .ok keywords) : keywords.words = settings.markers := by
  unfold Settings.keywords at accepted
  split at accepted
  · rename_i read
    obtain rfl := Except.ok.inj accepted
    exact Keywords.words_ofList? read
  · simp at accepted

theorem keywords_eq_error_iff (settings : Settings) :
    settings.keywords = .error .noKeywords ↔ settings.markers = [] := by
  rw [← Keywords.ofList?_eq_none_iff, keywords]
  cases Keywords.ofList? settings.markers with
  | none => exact iff_of_true rfl rfl
  | some words => exact iff_of_false nofun nofun

theorem exists_keywords_iff (settings : Settings) :
    (∃ keywords, settings.keywords = .ok keywords) ↔ settings.markers ≠ [] := by
  rw [ne_eq, ← keywords_eq_error_iff, keywords]
  cases Keywords.ofList? settings.markers with
  | none =>
      refine iff_of_false ?_ fun present => present rfl
      rintro ⟨words, accepted⟩
      cases accepted
  | some words => exact iff_of_true ⟨words, rfl⟩ nofun

/-- The keywords of valid settings are words of letters, digits and underscores. -/
theorem word_of_mem_spellings {settings : Settings} (valid : settings.validate = .ok ())
    {keywords : Keywords} (accepted : settings.keywords = .ok keywords) {spelling : List Char}
    (listed : spelling ∈ keywords.spellings) :
    spelling ≠ [] ∧ ∀ c ∈ spelling, Text.isAlphanumeric c || c == '_' := by
  obtain ⟨-, single⟩ := settings.validateMarkers_eq_ok_iff.mp (validateMarkers_of_validate valid)
  obtain ⟨marker, configured, rfl⟩ := List.mem_map.mp listed
  rw [words_of_keywords accepted] at configured
  have word := single marker configured
  rw [isSingleWord, Bool.and_eq_true, List.all_eq_true] at word
  refine ⟨fun empty => ?_, word.2⟩
  simp [String.toList_eq_nil_iff.mp empty] at word

end Settings

end MarkerReport
