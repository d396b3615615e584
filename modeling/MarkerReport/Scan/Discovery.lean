import MarkerReport.Files.Locate
import MarkerReport.Settings

/-! # Finding the files to scan

Below a directory, a scan looks at every regular file whose extension is allowed, except for what
the settings leave out. A path is left out when a glob pattern matches it as it is printed, or as it
reads from the directory that the scan starts in; what is left out is not entered either.

Symbolic links are skipped unless the settings say to follow them. Then a link counts as what it
leads to, except that a link to a directory in which the search already is leads nowhere.

In which order a directory lists its entries is not told by a file tree. So the files are given in
the order of their paths, and not in the order in which a walk through the directories meets them.
-/

namespace MarkerReport

/-- Whether a path is left out, given as printed and as seen from where the scan starts. -/
def leftOut (excludes : List Glob) (printed relative : String) : Bool :=
  excludes.any fun glob => glob.covers relative || glob.covers printed

namespace FileTree

/-- What an entry of a directory counts as in a search: itself, or, if it is a link and links are
followed, what it leads to. `path` holds the locations of the directories in which the search is.

Each entry is looked up from its own directory, so the links that the search has passed before do
not count towards `linkLimit`. Only a search through more links than that in a row goes further than
a path can that is followed from its start. -/
def searched? (tree : FileTree) (followLinks : Bool) (path : List Location) (location : Location) :
    Option (Location × Entry) :=
  match tree.lookup location with
  | some (.link _) =>
      if followLinks then
        match tree.follow linkLimit location.dropLast [.enter (location.getLastD "")] with
        | .error _ => none
        | .ok found =>
            match tree.lookup found with
            | some .directory => if path.contains found then none else some (found, .directory)
            | some entry => some (found, entry)
            | none => none
      else none
  | some entry => some (location, entry)
  | none => none

/-- The printed paths of the files below a directory that a scan looks at. The directory stands at
the first location of `path`, is printed as `printed`, and reads `relative` from where the scan
starts. `depth` bounds how deep the search goes. -/
def filesBelow (tree : FileTree) (settings : Settings) (excludes : List Glob) :
    (depth : Nat) → (path : List Location) → (printed relative : String) → List String
  | 0, _, _, _ => []
  | _, [], _, _ => []
  | depth + 1, here :: above, printed, relative =>
      (tree.names here).flatMap fun name =>
        let printedEntry := Path.join printed name
        let relativeEntry := Path.join relative name
        if leftOut excludes printedEntry relativeEntry then []
        else
          match tree.searched? settings.followLinks (here :: above) (here ++ [name]) with
          | some (_, .file _) => if settings.allowsPath printedEntry then [printedEntry] else []
          | some (location, .directory) =>
              filesBelow tree settings excludes depth (location :: here :: above) printedEntry
                relativeEntry
          | _ => []

/-- How deep a search can go: between two links it only goes down, and no link leads to a directory
in which the search already is. -/
def searchDepth (tree : FileTree) : Nat := (tree.entries.length + 1) * (tree.entries.length + 1)

/-- The files that a scan of a path looks at, in order of their paths. A path to a file stands for
that file; a path that leads nowhere for no file. -/
def discover (tree : FileTree) (settings : Settings) (root : String) :
    Except Error (List String) := do
  let excludes ← settings.excludeGlobs
  match tree.find root with
  | .ok (_, .file _) =>
      return if settings.allowsPath root && !leftOut excludes root "" then [root] else []
  | .ok (location, .directory) =>
      return (tree.filesBelow settings excludes tree.searchDepth [location] root "").mergeSort
        fun left right => left ≤ right
  | _ => return []

end FileTree

end MarkerReport
