/-! # File trees

A file tree is a finite collection of files, directories and symbolic links, each at its own
location. The top of a tree is always a directory. One of the directories is the working directory,
from which relative paths start.

A tree tells what can be read. It knows no permissions: whatever stands in it can be read. What
hinders writing, and at which further locations a file stands, is told by
`MarkerReport.Surroundings`.
-/

namespace MarkerReport

/-- A place in a file tree: the names that lead to it from the top. -/
abbrev Location := List String

/-- What stands at a location. -/
inductive Entry where
  | file (content : List UInt8)
  | directory
  | link (target : String)
deriving Repr, DecidableEq, Inhabited

/-- A file tree. -/
structure FileTree where
  /-- The entries below the top; an earlier one hides a later one at the same location. -/
  entries : List (Location × Entry)
  /-- The working directory. -/
  home : Location
deriving Repr, DecidableEq, Inhabited

/-- Where the null device stands. For a reader it is a file with nothing in it. -/
def nullDevice : Location := ["dev", "null"]

namespace FileTree

/-- The tree with an empty working directory and the null device. -/
def empty : FileTree where
  entries := [(["dev"], .directory), (nullDevice, .file []), (["work"], .directory)]
  home := ["work"]

/-- What stands at a location. -/
def lookup (tree : FileTree) (location : Location) : Option Entry :=
  if location = [] then some .directory else tree.entries.lookup location

/-- Whether a location is at or below another. -/
def isWithin (top location : Location) : Bool := top.isPrefixOf location

/-- Removes what stands at a location and below it. -/
def erase (tree : FileTree) (top : Location) : FileTree :=
  { tree with entries := tree.entries.filter fun (location, _) => !isWithin top location }

/-- Puts an entry at a location, in place of what stood there. -/
def insert (tree : FileTree) (location : Location) (entry : Entry) : FileTree :=
  { tree with
    entries := (location, entry) :: tree.entries.filter fun (other, _) => other != location }

/-- Gives the files at some locations another content. What is no file stays as it is. -/
def refill (tree : FileTree) (locations : List Location) (content : List UInt8) : FileTree :=
  { tree with
    entries := tree.entries.map fun (location, entry) =>
      match entry with
      | .file earlier => (location, .file (if location ∈ locations then content else earlier))
      | other => (location, other) }

/-- The names of the entries of a directory. -/
def names (tree : FileTree) (directory : Location) : List String :=
  tree.entries.filterMap fun (location, _) =>
    if location.dropLast = directory then location.getLast? else none

/-- The text of a location: its names with separators between them. -/
def textOf (location : Location) : String := String.intercalate "/" location

/-- The regular files below the working directory that another tree does not have with the same
content. Their locations are told from the working directory on. -/
def changedFrom (tree before : FileTree) : List (Location × List UInt8) :=
  tree.entries.filterMap fun (location, entry) =>
    match entry with
    | .file content =>
        if isWithin tree.home location && before.lookup location != some (.file content) then
          some (location.drop tree.home.length, content)
        else none
    | _ => none

theorem lookup_insert (tree : FileTree) (location other : Location) (entry : Entry)
    (below : location ≠ []) :
    (tree.insert location entry).lookup other =
      if other = location then some entry else tree.lookup other := by
  by_cases top : other = []
  · subst top
    simp [lookup, below.symm]
  · simp only [lookup, insert, top, if_false]
    by_cases same : other = location
    · subst same
      simp
    · have skip : (other == location) = false := by simp [same]
      simp only [List.lookup_cons, skip, same, if_false]
      induction tree.entries with
      | nil => rfl
      | cons head tail ih =>
          obtain ⟨place, value⟩ := head
          by_cases hit : place = location
          · subst hit
            simp [List.lookup_cons, skip, ih]
          · have kept : (place != location) = true := by simp [hit]
            simp only [List.filter_cons, kept, if_true, List.lookup_cons, ih]

end FileTree

end MarkerReport
