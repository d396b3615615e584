import MarkerReport.Command.Layers
import MarkerReport.Command.Table
import MarkerReport.Scan.Scanner

/-! # Carrying out a command

A command prints text and, if it is a scan that finds something, writes a report. The settings are
settled and the scan is done before anything is written, so a scan that fails on the way or finds
nothing leaves the files as they are.
-/

namespace MarkerReport

/-- What comes of a command. -/
structure Run where
  /-- The files afterwards. -/
  tree : FileTree
  /-- What is printed, or the failure that ended the command. -/
  outcome : Except Failure String

namespace Run

/-- The exit code of a command. -/
def exitCode (run : Run) : UInt8 := if run.outcome.isOk then 0 else 1

/-- What a command prints. -/
def output (run : Run) : String := run.outcome.toOption.getD ""

end Run

namespace ScanRequest

/-- The items that a scan finds, and the settings of the scan. -/
def findItems (request : ScanRequest) (tree : FileTree) :
    Except Failure (Settings × List Item) := do
  let settings ← request.settings tree
  let scanner ← Failure.during "Failed to initialize scan pipeline" (Scanner.ofSettings settings)
  let outcome ← Failure.during ("Failed to scan " ++ request.directory)
    (scanner.scan tree request.directory)
  return (settings, outcome.toList)

/-- The layout of the report of a scan. -/
def layout (request : ScanRequest) (settings : Settings) : ReportLayout :=
  { format := request.format, withContext := settings.resolveScopes }

/-- Writes the report of a scan. -/
def writeReport (request : ScanRequest) (tree : FileTree) (settings : Settings)
    (items : List Item) (around : Surroundings) : Run :=
  let path := request.outputPath
  let (after, result) := (request.layout settings).write request.directory items tree path around
  { tree := after
    outcome := (Failure.during ("Failed to write " ++ path) result).map fun _ =>
      "Wrote " ++ request.format.displayName ++ " report to " ++ path ++ "\n" }

/-- Carries out a scan. -/
def run (request : ScanRequest) (tree : FileTree) (around : Surroundings := .usual) : Run :=
  match request.findItems tree with
  | .error failure => { tree, outcome := .error failure }
  | .ok (_, []) => { tree, outcome := .ok "No TODOs/FIXMEs found.\n" }
  | .ok (settings, items) => request.writeReport tree settings items around

end ScanRequest

/-- The default settings, as a document with a word on how to use it. -/
def defaultConfigText : String :=
  "# Default todo-md configuration\n" ++
    "# Save this as .todo-md.yml or pass it with: todo-md scan --config <file>\n\n" ++
    String.ofList Settings.default.toYaml ++ "\n"

namespace Language

/-- What is shown of a language in the list of languages. -/
def cells (language : Language) : List String := [
  language.name,
  String.intercalate ", " (language.extensions.map ("." ++ ·)),
  String.intercalate " " (language.comments.map CommentStyle.opener),
  language.strategy.label,
  language.notes]

/-- The list of the known languages, with a bold blue title and a dimmed remark. -/
def listing : String :=
  "\x1b[1m\x1b[94mSupported Languages\x1b[39m\x1b[0m\n" ++
    "   Found " ++ toString known.length ++ " supported languages\n\n" ++
    Table.render ["language", "extension", "comments", "scope", "notes"] (known.map cells) ++
    "\n\n\x1b[2mFiles with other extensions are scanned when added via --ext or the config file." ++
    "\x1b[0m\n"

end Language

/-- Carries out what is asked for. -/
def Request.run (tree : FileTree) (request : Request) (around : Surroundings := .usual) : Run :=
  match request with
  | scan request => request.run tree around
  | printDefaultConfig => { tree, outcome := .ok defaultConfigText }
  | listLanguages => { tree, outcome := .ok Language.listing }

end MarkerReport
