import MarkerReport.Files.Locate
import MarkerReport.Text.Utf8

/-! # Reading text

A source file is read whole and must be UTF-8.
-/

namespace MarkerReport.FileTree

/-- The text of a source file, given as its bytes. -/
def decodeSource (path : String) (content : List UInt8) : Except Error (List Char) :=
  match Utf8.decode content with
  | .ok text => .ok text
  | .error fault =>
      .error (.validation
        (path ++ " is not valid UTF-8 (invalid byte at offset " ++ toString fault.offset ++ ")")
        none (some "UTF-8") none)

/-- The text of the source file that a path leads to. -/
def readSource (tree : FileTree) (path : String) : Except Error (List Char) :=
  match tree.read path with
  | .ok content => decodeSource path content
  | .error cause => .error (.io ("Failed to read " ++ path) cause)

/-- The text of the settings file that a path leads to. -/
def readSettingsText (tree : FileTree) (path : String) : Except Error (List Char) :=
  match tree.read path with
  | .error cause => .error (.io ("Failed to read config file: " ++ path) cause)
  | .ok content =>
      match Utf8.decode content with
      | .ok text => .ok text
      | .error _ => .error (.io ("Failed to read config file: " ++ path) .invalidData)

end MarkerReport.FileTree
