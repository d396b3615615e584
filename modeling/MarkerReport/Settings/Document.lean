import MarkerReport.Files.Change
import MarkerReport.Files.Read
import MarkerReport.Settings
import MarkerReport.Yaml.Document
import MarkerReport.Yaml.Print

/-! # Settings as YAML documents

A settings document is a mapping with a key for each field. A field that is not there has its
default, and keys that are no fields are ignored; but a field must not be there twice. A list that
is left empty is an empty list.
-/

namespace MarkerReport.Settings

open Yaml

/-- The name of a policy in a document. -/
def policyName : Policy → String
  | .comment => "comment"
  | .line => "line"

/-- The policy with a name. -/
def policyOf? (name : String) : Option Policy :=
  if name = "comment" then some .comment else if name = "line" then some .line else none

/-- The document with the given settings. -/
def toYaml (settings : Settings) : List Char :=
  printSequence "extensions" settings.extensions ++
    printSequence "markers" settings.markers ++
    printField "extraction" (policyName settings.policy) ++
    printField "resolve_scopes" (if settings.resolveScopes then "true" else "false") ++
    printSequence "exclude_patterns" settings.excludes ++
    printField "follow_links" (if settings.followLinks then "true" else "false")

/-- The text of a scalar, however it is written. -/
def readText (document : Document) (node : Node) : Option String :=
  match document.resolve node with
  | some (.scalar _ _ text) => some text
  | _ => none

/-- The texts of a sequence. -/
def readTexts (document : Document) (node : Node) : Option (List String) :=
  match document.resolve node with
  | some (.sequence _ items) => items.mapM (readText document)
  | some (.scalar _ .plain "") => some []
  | _ => none

/-- A truth value: a plain scalar, or a literal block that is tagged as one. -/
def readBool (document : Document) (node : Node) : Option Bool :=
  match document.resolve node with
  | some (.scalar _ .plain text) => bool? text
  | some (.scalar ⟨_, some "tag:yaml.org,2002:bool"⟩ .literal text) => bool? text
  | _ => none

/-- The name in a tag that starts with an exclamation mark. -/
def localTag? (tag : String) : Option String :=
  match tag.toList with
  | '!' :: rest => some (if rest.isEmpty then "!" else String.ofList rest)
  | _ => none

/-- A policy: a scalar with its name, or its name as a tag and nothing behind it. -/
def readPolicy (document : Document) (node : Node) : Option Policy :=
  match document.resolve node with
  | some (.scalar properties style text) =>
      match properties.tag.bind localTag? with
      | some name =>
          if style == .plain && (text.isEmpty || isNull text) then policyOf? name else none
      | none => policyOf? text
  | _ => none

/-- What is known of settings, field by field. -/
structure Partial where
  extensions : Option (List String) := none
  markers : Option (List String) := none
  policy : Option Policy := none
  resolveScopes : Option Bool := none
  excludes : Option (List String) := none
  followLinks : Option Bool := none
deriving Repr, DecidableEq, Inhabited

/-- The settings of which the given is known, and the defaults for the rest. -/
def ofPartial (known : Partial) : Settings where
  extensions := known.extensions.getD default.extensions
  markers := known.markers.getD default.markers
  policy := known.policy.getD default.policy
  resolveScopes := known.resolveScopes.getD default.resolveScopes
  excludes := known.excludes.getD default.excludes
  followLinks := known.followLinks.getD default.followLinks

/-- A field that is not known yet. -/
def once {α : Type} (known : Option α) (read : Option α) : Option (Option α) :=
  if known.isSome then none else read.map some

/-- Reads the value of a key. -/
def readField (document : Document) (known : Partial) (key : String) (value : Node) :
    Option Partial :=
  match key with
  | "extensions" =>
      (once known.extensions (readTexts document value)).map ({ known with extensions := · })
  | "markers" => (once known.markers (readTexts document value)).map ({ known with markers := · })
  | "extraction" => (once known.policy (readPolicy document value)).map ({ known with policy := · })
  | "resolve_scopes" =>
      (once known.resolveScopes (readBool document value)).map ({ known with resolveScopes := · })
  | "exclude_patterns" =>
      (once known.excludes (readTexts document value)).map ({ known with excludes := · })
  | "follow_links" =>
      (once known.followLinks (readBool document value)).map ({ known with followLinks := · })
  | _ => some known

/-- Reads the pairs of a mapping. -/
def readPairs (document : Document) : Partial → List (Node × Node) → Option Partial
  | known, [] => some known
  | known, (key, value) :: later =>
      match readText document key with
      | none => none
      | some key =>
          match readField document known key value with
          | some known => readPairs document known later
          | none => none

/-- Reads the settings in a document. -/
def ofDocument? (document : Document) : Option Settings :=
  match document.root with
  | .mapping _ pairs => (readPairs document {} pairs).map ofPartial
  | .scalar _ .plain "" => some default
  | _ => none

/-- Reads settings. -/
def ofYaml? (source : List Char) : Option Settings := do
  ofDocument? (← Document.read? source)

/-- Reads settings from a file. -/
def load (tree : FileTree) (path : String) : Except Error Settings :=
  match tree.readSettingsText path with
  | .error error => .error error
  | .ok source =>
      match ofYaml? source with
      | some settings => .ok settings
      | none => .error (.ofYaml "malformed settings")

/-- Writes settings to a file. -/
def save (settings : Settings) (tree : FileTree) (path : String) : FileTree × Except Error Unit :=
  match tree.write path (Utf8.encode settings.toYaml) with
  | (after, .ok ()) => (after, .ok ())
  | (after, .error cause) => (after, .error (.io ("Failed to write config file: " ++ path) cause))

end MarkerReport.Settings
