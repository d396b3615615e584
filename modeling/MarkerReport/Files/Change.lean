import MarkerReport.Files.Locate
import MarkerReport.Files.Surroundings

/-! # Changing a file tree

A change gives a new tree together with what went wrong, if anything did: a change that fails may
have been made in part.
-/

namespace MarkerReport.FileTree

/-- Puts a content in the place of the file at a location, if there is one, and in all its other
places. -/
def store (tree : FileTree) (around : Surroundings) (location : Location) (content : List UInt8) :
    FileTree :=
  (tree.refill (around.aliases location) content).insert location (.file content)

/-- Opens the file at a location, which empties it, and writes to it. -/
def fill (tree : FileTree) (around : Surroundings) (location : Location) (content : List UInt8) :
    FileTree × Except IoCause Unit :=
  match around.refusal location with
  | some cause => (tree, .error cause)
  | none =>
      match around.fate location with
      | .kept => (tree.store around location content, .ok ())
      | .dropped => (tree, .ok ())
      | .cut count cause => (tree.store around location (content.take count), .error cause)

/-- Writes a file, through symbolic links. The directory that holds it must exist. -/
def write (tree : FileTree) (path : String) (content : List UInt8)
    (around : Surroundings := .plain) : FileTree × Except IoCause Unit :=
  if path.endsWith "/" then
    match tree.locateParent path with
    | .ok _ => (tree, .error .isADirectory)
    | .error cause => (tree, .error cause)
  else
    match tree.locate path with
    | .error cause => (tree, .error cause)
    | .ok location =>
        match tree.lookup location with
        | some .directory => (tree, .error .isADirectory)
        | some (.link _) => (tree, .error .other)
        | _ => tree.fill around location content

/-- Makes a directory in one that exists. -/
def makeDirectory (tree : FileTree) (path : String) (around : Surroundings := .plain) :
    FileTree × Except IoCause Unit :=
  match tree.locateParent path with
  | .error cause => (tree, .error cause)
  | .ok (directory, .enter name) =>
      match tree.lookup (directory ++ [name]) with
      | some _ => (tree, .error .alreadyExists)
      | none =>
          match around.refusal (directory ++ [name]) with
          | some cause => (tree, .error cause)
          | none => (tree.insert (directory ++ [name]) .directory, .ok ())
  | .ok (_, _) => (tree, .error .alreadyExists)

/-- Makes a directory, and does not mind if it exists. -/
def ensureDirectory (tree : FileTree) (path : String) (around : Surroundings := .plain) :
    FileTree × Except IoCause Unit :=
  match tree.makeDirectory path around with
  | (after, .ok ()) => (after, .ok ())
  | (after, .error cause) =>
      if after.hasDirectory path then (after, .ok ()) else (after, .error cause)

/-- Makes the first of the given directories, each of which lies in the next one, and as many of the
others as it takes. -/
def makeAllOf (tree : FileTree) (around : Surroundings) :
    List String → FileTree × Except IoCause Unit
  | [] => (tree, .ok ())
  | path :: above =>
      match tree.ensureDirectory path around with
      | (after, .error .notFound) =>
          match makeAllOf after around above with
          | (made, .ok ()) => made.ensureDirectory path around
          | (made, .error cause) => (made, .error cause)
      | outcome => outcome

/-- Makes a directory and those above it that do not exist. -/
def makeDirectories (tree : FileTree) (path : String) (around : Surroundings := .plain) :
    FileTree × Except IoCause Unit :=
  tree.makeAllOf around (Path.ancestors path)

/-- Puts an entry at a path and makes the directories above it. A file is written through symbolic
links; a link takes the place of what stood there. -/
def put (tree : FileTree) (path : String) (entry : Entry) : FileTree :=
  let (ready, _) := tree.makeDirectories ((Path.parent? path).getD "")
  match entry with
  | .file content => (ready.write path content).1
  | .directory => (ready.makeDirectories path).1
  | .link target =>
      match ready.locateParent path with
      | .ok (directory, .enter name) =>
          (ready.erase (directory ++ [name])).insert (directory ++ [name]) (.link target)
      | _ => ready

/-- Removes what stands at a path, with everything below it. A link is removed, not what it leads
to. -/
def remove (tree : FileTree) (path : String) : FileTree :=
  match tree.locateParent path with
  | .ok (directory, .enter name) => tree.erase (directory ++ [name])
  | _ => tree

end MarkerReport.FileTree
