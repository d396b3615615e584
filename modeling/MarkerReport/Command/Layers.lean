import MarkerReport.CommandLine.Request
import MarkerReport.Settings.Document

/-! # Layers of settings

The settings of a scan come in layers: the defaults or the legacy settings, in their place the
settings in a file if there is one, and on top what the command line says. The outcome has to make
sense.
-/

namespace MarkerReport

/-- A failure that ends a command, with what was being done, from the outside in. -/
structure Failure where
  context : List String
  cause : Error
deriving Repr, DecidableEq, Inhabited

/-- Says what was being done when a failure arose. -/
def Failure.during {α : Type} (context : String) : Except Error α → Except Failure α
  | .ok value => .ok value
  | .error cause => .error ⟨[context], cause⟩

@[simp] theorem Failure.during_eq_ok_iff {α : Type} (context : String) (result : Except Error α)
    (value : α) : Failure.during context result = .ok value ↔ result = .ok value := by
  cases result with
  | error cause => simp [Failure.during]
  | ok found => simp [Failure.during]

namespace Settings

/-- Adds a keyword, unless one that differs only in the case of ASCII letters is there. -/
def addMarker (markers : List String) (marker : String) : List String :=
  if markers.any (Text.sameAsciiFolded marker) then markers else markers ++ [marker]

/-- Adds an extension without its leading dots, unless it is allowed already. -/
def addExtension (settings : Settings) (extension : String) : Settings :=
  if settings.allows extension then settings
  else { settings with extensions := settings.extensions ++ [Language.trimDots extension] }

/-- Puts what a command line says on top of settings. -/
def merge (settings : Settings) (request : ScanRequest) : Settings :=
  let extended := request.extensions.foldl addExtension settings
  { extended with
    markers := request.markers.foldl addMarker settings.markers
    policy := if request.legacy then .line else settings.policy
    resolveScopes := settings.resolveScopes && !request.legacy && !request.noContext
    excludes := settings.excludes ++ request.excludes }

end Settings

namespace ScanRequest

/-- The files that settings are taken from when no file is named: the first that is there. -/
def implicitConfigs : List String := [".todo-md.yml", ".todo-md.yaml"]

/-- The file that settings are taken from. -/
def configPath? (request : ScanRequest) (tree : FileTree) : Option String :=
  request.config.or (implicitConfigs.find? tree.reaches)

/-- The settings under what the command line says. -/
def baseSettings (request : ScanRequest) (tree : FileTree) : Except Failure Settings :=
  match request.configPath? tree with
  | some path => Failure.during ("Failed to load configuration from " ++ path)
      (Settings.load tree path)
  | none => .ok (if request.legacy then .legacy else .default)

/-- The settings of a scan. -/
def settings (request : ScanRequest) (tree : FileTree) : Except Failure Settings := do
  let merged := (← request.baseSettings tree).merge request
  Failure.during "Configuration validation failed" merged.validate
  return merged

end ScanRequest

end MarkerReport
