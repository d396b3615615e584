import MarkerReport.Error
import MarkerReport.Files.Tree
import MarkerReport.Path

/-! # Finding what a path leads to

A path is followed component by component, from the top of a tree if it is absolute and from the
working directory if it is relative. A symbolic link on the way is replaced by its target, which, if
it is relative, is followed from the directory of the link; after a bounded number of links the
search is given up. Above the top there is the top again.
-/

namespace MarkerReport

/-- One step along a path. -/
inductive Step where
  /-- To the directory itself. -/
  | stay
  /-- To the directory above. -/
  | up
  /-- To an entry of the directory. -/
  | enter (name : String)
deriving Repr, DecidableEq, Inhabited

/-- The steps along the pieces of a path. An empty piece counts at the end only, where it asks for a
directory. -/
def Step.ofPieces : List (List Char) → List Step
  | [] => []
  | [[]] => [.stay]
  | [] :: later => Step.ofPieces later
  | piece :: later =>
      (if piece = ['.'] then .stay
        else if piece = ['.', '.'] then .up
        else .enter (String.ofList piece)) :: Step.ofPieces later

/-- The steps along a path, unless it is empty. -/
def Step.ofPath? (path : String) : Option (List Step) :=
  if path = "" then none else some (Step.ofPieces (Path.pieces path.toList))

/-- Where a path starts that is met in a directory. -/
def Step.start (directory : Location) (path : String) : Location :=
  if path.startsWith "/" then [] else directory

@[simp] theorem Step.start_top (path : String) : Step.start [] path = [] := by
  unfold Step.start
  split <;> rfl

namespace FileTree

/-- How many links are followed on the way to one location. -/
def linkLimit : Nat := 40

/-- Follows steps from a location to another one, at which something may or may not stand. Every
step but the last must lead to a directory. -/
def follow (tree : FileTree) (links : Nat) (location : Location) (steps : List Step) :
    Except IoCause Location :=
  match steps with
  | [] => .ok location
  | step :: later =>
      match tree.lookup location with
      | none => .error .notFound
      | some (.file _) => .error .notADirectory
      | some (.link _) => .error .other
      | some .directory =>
          match step with
          | .stay => follow tree links location later
          | .up => follow tree links location.dropLast later
          | .enter name =>
              match tree.lookup (location ++ [name]) with
              | some (.link target) =>
                  match links, Step.ofPath? target with
                  | 0, _ => .error .other
                  | _, none => .error .notFound
                  | links + 1, some inner =>
                      follow tree links (Step.start location target) (inner ++ later)
              | _ => follow tree links (location ++ [name]) later
termination_by (links, steps.length)

/-- The location that a path leads to, at which something may or may not stand. -/
def locate (tree : FileTree) (path : String) : Except IoCause Location :=
  match Step.ofPath? path with
  | none => .error .notFound
  | some steps => tree.follow linkLimit (Step.start tree.home path) steps

/-- The directory that holds the last component of a path, and that component. Links on the way are
followed, but not one at the last component. -/
def locateParent (tree : FileTree) (path : String) : Except IoCause (Location × Step) :=
  match Step.ofPath? path with
  | none => .error .notFound
  | some steps =>
      let named := if steps.length > 1 && path.endsWith "/" then steps.dropLast else steps
      match named.getLast? with
      | none => .error .notFound
      | some last =>
          match tree.follow linkLimit (Step.start tree.home path) (named.dropLast ++ [.stay]) with
          | .ok directory => .ok (directory, last)
          | .error cause => .error cause

/-- What a path leads to, and where that stands. -/
def find (tree : FileTree) (path : String) : Except IoCause (Location × Entry) :=
  match tree.locate path with
  | .error cause => .error cause
  | .ok location =>
      match tree.lookup location with
      | some entry => .ok (location, entry)
      | none => .error .notFound

theorem find_eq_ok_iff {tree : FileTree} {path : String} {location : Location} {entry : Entry} :
    tree.find path = .ok (location, entry) ↔
      tree.locate path = .ok location ∧ tree.lookup location = some entry := by
  unfold find
  cases located : tree.locate path with
  | error cause => simp
  | ok found =>
      simp only [Except.ok.injEq]
      constructor
      · intro leads
        split at leads
        · rename_i other stands
          obtain ⟨rfl, rfl⟩ : found = location ∧ other = entry := by simpa using leads
          exact ⟨rfl, stands⟩
        · cases leads
      · rintro ⟨rfl, stands⟩
        simp only [stands]

/-- Whether a path leads to something. -/
def reaches (tree : FileTree) (path : String) : Bool := (tree.find path).isOk

/-- Whether a path leads to a directory. -/
def hasDirectory (tree : FileTree) (path : String) : Bool :=
  match tree.find path with
  | .ok (_, .directory) => true
  | _ => false

/-- The bytes of the file that a path leads to. -/
def read (tree : FileTree) (path : String) : Except IoCause (List UInt8) :=
  match tree.find path with
  | .ok (_, .file content) => .ok content
  | .ok (_, .directory) => .error .isADirectory
  | .ok (_, .link _) => .error .other
  | .error cause => .error cause

end FileTree

end MarkerReport
