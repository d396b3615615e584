import MarkerReport.Files.Read
import MarkerReport.Scan.Discovery
import MarkerReport.Scan.Item
import MarkerReport.Scope.Resolve

/-! # Scanning

A scanner is made from settings that make sense. It looks for keywords in the text of each file and,
if scopes are resolved, joins every finding with the scope of its line. What goes wrong in a file
stays there: a file that cannot be read has no items, and if no scopes can be found for a file, its
items belong to the module.
-/

namespace MarkerReport

/-- A scan that is ready to run. -/
structure Scanner where
  settings : Settings
  keywords : Keywords
deriving DecidableEq

namespace Scanner

/-- Makes a scanner from settings. -/
def ofSettings (settings : Settings) : Except Error Scanner := do
  settings.validate
  return ⟨settings, ← settings.keywords⟩

/-- The findings in a source text. -/
def findings (scanner : Scanner) (source : List Char) : List Finding :=
  Finding.extract scanner.settings.policy scanner.keywords source

/-- The scopes of a source text, as far as they can be found. -/
def scopes (path : String) (source : List Char) : ScopeMap :=
  match ScopeMap.resolveFor path source with
  | .ok map => map
  | .error _ => .empty

/-- The items of a source text. -/
def scanSource (scanner : Scanner) (path : String) (source : List Char) : List Item :=
  match scanner.findings source with
  | [] => []
  | findings =>
      if scanner.settings.resolveScopes then
        let map := scopes path source
        findings.map fun finding => .ofFinding path (some (map.scopeFor finding.line)) finding
      else findings.map (.ofFinding path none)

/-- The items of a file. -/
def scanFile (scanner : Scanner) (tree : FileTree) (path : String) : List Item :=
  match tree.readSource path with
  | .ok source => scanner.scanSource path source
  | .error _ => []

/-- Scans several files, one after the other. -/
def scanFiles (scanner : Scanner) (tree : FileTree) (paths : List String) : Outcome :=
  .ofItems (paths.flatMap (scanner.scanFile tree))

/-- Scans the files that a scan of a path looks at. -/
def scan (scanner : Scanner) (tree : FileTree) (root : String) : Except Error Outcome := do
  return scanner.scanFiles tree (← tree.discover scanner.settings root)

end Scanner

end MarkerReport
