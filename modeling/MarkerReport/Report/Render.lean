import MarkerReport.Error
import MarkerReport.Files.Change
import MarkerReport.Json.Value
import MarkerReport.Report.Markdown
import MarkerReport.Text.Utf8

/-! # Reports

A report is rendered in one of two formats and can be written to a file. The directories above the
file are made if they do not exist.
-/

namespace MarkerReport

/-- The format of a report. -/
inductive ReportFormat where
  | markdown
  | json
deriving Repr, DecidableEq, Inhabited

namespace ReportFormat

/-- The name of a format in messages. -/
def displayName : ReportFormat → String
  | .markdown => "Markdown"
  | .json => "JSON"

end ReportFormat

namespace Json

/-- An item of a report. The scope is left out if there is none. -/
def ofItem (item : Item) : Value :=
  .object ([("file_path", .string item.file), ("line", .number item.line)] ++
    (item.scope.map fun scope => ("scope", .string scope)).toList ++
    [("kind", .string item.kind), ("text", .string item.text)])

/-- The report on items found in a scan of the given directory. -/
def ofReport (root : String) (items : List Item) : Value :=
  .object [("scanned_directory", .string root), ("found", .number items.length),
    ("items", .array (items.map ofItem))]

end Json

/-- How a report is laid out. -/
structure ReportLayout where
  format : ReportFormat
  /-- Whether a Markdown report has a column for scopes. -/
  withContext : Bool
deriving Repr, DecidableEq, Inhabited

namespace ReportLayout

/-- The text of the report on items found in a scan of the given directory. -/
def render (layout : ReportLayout) (root : String) (items : List Item) : List Char :=
  match layout.format with
  | .markdown => Markdown.report layout.withContext root items
  | .json => (Json.ofReport root items).print 0 ++ ['\n']

/-- Makes the directory above a file. -/
def makeParent (tree : FileTree) (path : String) (around : Surroundings) :
    FileTree × Except Error Unit :=
  match Path.parent? path with
  | none => (tree, .ok ())
  | some parent =>
      match tree.makeDirectories parent around with
      | (after, .ok ()) => (after, .ok ())
      | (after, .error cause) =>
          (after, .error ((Error.ofIo cause).withContext ("Failed to create " ++ parent)))

/-- Making the directory above a file leaves the tree that making its directories leaves. -/
theorem makeParent_tree (tree : FileTree) (path : String) (around : Surroundings) :
    (makeParent tree path around).1 =
      (Path.parent? path).elim tree fun parent => (tree.makeDirectories parent around).1 := by
  unfold makeParent
  cases Path.parent? path with
  | none => rfl
  | some parent =>
      dsimp only [Option.elim]
      split
      · rename_i after done
        rw [done]
      · rename_i after cause failed
        rw [failed]

/-- Writes a report to a file. -/
def write (layout : ReportLayout) (root : String) (items : List Item) (tree : FileTree)
    (path : String) (around : Surroundings := .usual) : FileTree × Except Error Unit :=
  match makeParent tree path around with
  | (ready, .error error) => (ready, .error error)
  | (ready, .ok ()) =>
      match ready.write path (Utf8.encode (layout.render root items)) around with
      | (after, .ok ()) => (after, .ok ())
      | (after, .error cause) => (after, .error (.io ("Failed to write report to " ++ path) cause))

end ReportLayout

end MarkerReport
