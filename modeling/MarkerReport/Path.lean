/-! # Paths

A path is text with `/` between its components. Empty components do not count, and neither does a
component `.` except at the start of a relative path.
-/

namespace MarkerReport.Path

/-- A component of a path. -/
inductive Component where
  /-- The start of an absolute path. -/
  | root
  /-- A leading `.`. -/
  | here
  /-- A component `..`. -/
  | above
  | name (text : String)
deriving Repr, DecidableEq, Inhabited

/-- The pieces of a path between its separators. -/
def pieces : List Char → List (List Char)
  | [] => [[]]
  | c :: rest =>
      if c = '/' then [] :: pieces rest
      else
        match pieces rest with
        | [] => [[c]]
        | piece :: later => (c :: piece) :: later

/-- The component that a piece stands for after the first one. -/
def component? (piece : List Char) : Option Component :=
  if piece = [] ∨ piece = ['.'] then none
  else if piece = ['.', '.'] then some .above
  else some (.name (String.ofList piece))

/-- The components of a path, in order. -/
def components (path : String) : List Component :=
  match pieces path.toList with
  | [] => []
  | first :: later =>
      let rest := later.filterMap component?
      if first = [] then if later.isEmpty then [] else .root :: rest
      else if first = ['.'] then .here :: rest
      else (component? first).toList ++ rest

/-- The last component of a path, if it is a name. -/
def fileName? (path : String) : Option String :=
  match (components path).getLast? with
  | some (.name text) => some text
  | _ => none

/-- What follows the last dot of a file name, unless the only dot starts it. -/
def extensionOfName? (name : String) : Option String :=
  let reversed := name.toList.reverse
  if reversed.contains '.' then
    if ((reversed.dropWhile (· != '.')).drop 1).isEmpty then none
    else some (String.ofList (reversed.takeWhile (· != '.')).reverse)
  else none

/-- The extension of a path. -/
def extension? (path : String) : Option String := (fileName? path).bind extensionOfName?

/-- Whether a piece that is not the first one of its path counts for nothing. -/
def isVoid (piece : List Char) : Bool := piece.isEmpty || piece == ['.']

/-- Drops the pieces at the end of a path that count for nothing, except for the first piece. -/
def trimPieces : List (List Char) → List (List Char)
  | [] => []
  | first :: later => first :: (later.reverse.dropWhile isVoid).reverse

/-- The text of the pieces of a path. -/
def ofPieces (pieces : List (List Char)) : String :=
  if pieces = [[]] then "/" else String.ofList (List.intercalate ['/'] pieces)

/-- A path without its last component, unless it has none. -/
def parent? (path : String) : Option String :=
  match trimPieces (pieces path.toList) with
  | [] => none
  | [first] => if first = [] then none else some ""
  | first :: later => some (ofPieces (trimPieces (first :: later.dropLast)))

/-- A path and, one after the other, the paths that are left of it when components are taken from
its end, up to the one before the empty path. `depth` bounds their number. -/
def ancestry : (depth : Nat) → String → List String
  | 0, _ => []
  | depth + 1, path =>
      if path = "" then []
      else
        match parent? path with
        | none => [path]
        | some above => path :: ancestry depth above

/-- A path and the paths of the directories above it, from the innermost on. -/
def ancestors (path : String) : List String := ancestry path.length path

/-- Appends a relative path to a directory. -/
def join (directory entry : String) : String :=
  if directory.isEmpty || directory.endsWith "/" then directory ++ entry
  else directory ++ "/" ++ entry

end MarkerReport.Path
