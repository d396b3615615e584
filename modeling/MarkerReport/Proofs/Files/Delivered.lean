import MarkerReport.Proofs.Files.Made

/-! # Bytes delivered to a path

To write a file below directories that may not exist takes three steps: the directories are made,
the file is opened, and its bytes are written. Any of them may fail. What comes of them is told once
(`MarkerReport.FileTree.Delivers`), and from that, which places of a tree can change at all
(`MarkerReport.FileTree.Delivers.changesOnly`).
-/

namespace MarkerReport

/-- The paths of the directories above a file, from the innermost on. -/
def Path.directoriesAbove (path : String) : List String := (parent? path).elim [] ancestors

namespace FileTree

variable {before after ready tree : FileTree} {path : String} {around : Surroundings}
  {location : Location} {bytes : List UInt8}

/-- A path leads to a location at which a given thing becomes of bytes. -/
def Meets (tree : FileTree) (path : String) (around : Surroundings) (fate : Fate) : Prop :=
  ∃ location, tree.locate path = .ok location ∧ around.fate location = fate

/-- A location is one of those at which the file stands that a path leads to. -/
def Touches (tree : FileTree) (path : String) (around : Surroundings) (location : Location) :
    Prop :=
  ∃ target, tree.locate path = .ok target ∧ (location = target ∨ location ∈ around.aliases target)

/-- A tree has become another by a change to the file that a path leads to and by making directories
above it. Every other location is as it was, and other paths lead to what they led to. -/
structure ChangesOnly (before after : FileTree) (path : String) (around : Surroundings) : Prop where
  elsewhere : ∀ location, after.lookup location = before.lookup location ∨
    after.Touches path around location ∨ Made before after (Path.directoriesAbove path) location
  leads : ∀ {other location entry}, before.find other = .ok (location, entry) →
    ¬ after.Touches path around location → after.find other = .ok (location, entry)

/-- It is enough to look at locations when directories and links are kept. -/
theorem ChangesOnly.of_keeps (keeps : before.Keeps after)
    (elsewhere : ∀ location, after.lookup location = before.lookup location ∨
      after.Touches path around location ∨
        Made before after (Path.directoriesAbove path) location) :
    before.ChangesOnly after path around := by
  refine ⟨elsewhere, ?_⟩
  intro other location entry found apart
  obtain ⟨located, stands⟩ := find_eq_ok_iff.mp found
  apply find_eq_ok_iff.mpr ⟨keeps.locate located, ?_⟩
  rcases elsewhere location with same | here | made
  · rw [same, stands]
  · exact (apart here).elim
  · rw [made.vacant] at stands
    cases stands

/-- Making directories above a file changes nothing else. -/
theorem Grows.changesOnly (grows : before.Grows after (Path.directoriesAbove path)) :
    before.ChangesOnly after path around := by
  apply ChangesOnly.of_keeps grows.keeps
  intro location
  rcases grows.elsewhere location with same | made
  · exact .inl same
  · exact .inr (.inr made)

/-- A file that gets another content is the only one that changes. -/
theorem Opens.lookup_store_or_touches (opens : tree.Opens path location) (bytes : List UInt8)
    (other : Location) :
    (tree.store around location bytes).lookup other = tree.lookup other ∨
      (tree.store around location bytes).Touches path around other := by
  have located := (opens.keeps_store around bytes).locate opens.located
  by_cases here : other = location
  · exact .inr ⟨location, located, .inl here⟩
  by_cases further : other ∈ around.aliases location
  · exact .inr ⟨location, located, .inr further⟩
  left
  rw [opens.lookup_store, if_neg here, lookup_refill]
  cases tree.lookup other with
  | none => rfl
  | some entry => cases entry <;> simp [further]

/-- Another content of a file does not change what becomes of bytes written to it. -/
theorem Opens.meets_store (opens : tree.Opens path location) {fate : Fate}
    (meets : around.fate location = fate) (content : List UInt8) :
    (tree.store around location content).Meets path around fate :=
  ⟨location, (opens.keeps_store around content).locate opens.located, meets⟩

/-- A file is opened and filled below directories that have been made for it. -/
theorem Grows.changesOnly_store (grows : before.Grows ready (Path.directoriesAbove path))
    (opens : ready.Opens path location) :
    before.ChangesOnly (ready.store around location bytes) path around := by
  have keeps := opens.keeps_store around bytes
  apply ChangesOnly.of_keeps (grows.keeps.trans keeps)
  intro other
  rcases opens.lookup_store_or_touches bytes other with unchanged | touched
  · rcases grows.elsewhere other with same | made
    · exact .inl (unchanged.trans same)
    · obtain ⟨directory, listed, found⟩ := made.leads
      exact .inr (.inr ⟨made.vacant, directory, listed, keeps.find_directory found⟩)
  · exact .inr (.inl touched)

/-- What comes of delivering bytes to a path. Unless a file could be opened, at most directories are
made; in a file that could be opened all of the bytes stay, none of them, or a front part. -/
inductive Delivers (before : FileTree) (path : String) (around : Surroundings)
    (bytes : List UInt8) : FileTree → Except Error Unit → Prop
  | unopened {ready : FileTree} {error : Error}
      (grows : before.Grows ready (Path.directoriesAbove path)) :
      Delivers before path around bytes ready (.error error)
  | kept {ready : FileTree} {location : Location}
      (grows : before.Grows ready (Path.directoriesAbove path))
      (opens : ready.Opens path location) (fate : around.fate location = .kept) :
      Delivers before path around bytes (ready.store around location bytes) (.ok ())
  | dropped {ready : FileTree} {location : Location}
      (grows : before.Grows ready (Path.directoriesAbove path))
      (opens : ready.Opens path location) (fate : around.fate location = .dropped) :
      Delivers before path around bytes ready (.ok ())
  | cut {ready : FileTree} {location : Location} {count : Nat} {cause : IoCause} {error : Error}
      (grows : before.Grows ready (Path.directoriesAbove path))
      (opens : ready.Opens path location) (fate : around.fate location = .cut count cause) :
      Delivers before path around bytes (ready.store around location (bytes.take count))
        (.error error)

namespace Delivers

variable {result : Except Error Unit}

/-- Wherever delivering stops, no place changes but those of the file, and directories above it are
made. -/
theorem changesOnly (delivers : before.Delivers path around bytes after result) :
    before.ChangesOnly after path around := by
  cases delivers with
  | unopened grows => exact grows.changesOnly
  | kept grows opens _ => exact grows.changesOnly_store opens
  | dropped grows _ _ => exact grows.changesOnly
  | cut grows opens _ => exact grows.changesOnly_store opens

/-- Bytes that are delivered are read from the file, unless it keeps none. -/
theorem of_ok (delivers : before.Delivers path around bytes after (.ok ())) :
    after.Meets path around .kept ∧ after.read path = .ok bytes ∨
      after.Meets path around .dropped ∧ before.Grows after (Path.directoriesAbove path) := by
  cases delivers with
  | kept _ opens fate => exact .inl ⟨opens.meets_store fate bytes, opens.read_store around bytes⟩
  | dropped grows opens fate => exact .inr ⟨⟨_, opens.located, fate⟩, grows⟩

/-- Where delivering fails, at most directories have been made, unless the file was open and a front
part of the bytes is in it. -/
theorem of_error {error : Error}
    (delivers : before.Delivers path around bytes after (.error error)) :
    before.Grows after (Path.directoriesAbove path) ∨
      ∃ count cause, after.Meets path around (.cut count cause) ∧
        after.read path = .ok (bytes.take count) := by
  cases delivers with
  | unopened grows => exact .inl grows
  | cut _ opens fate =>
      exact .inr ⟨_, _, opens.meets_store fate _, opens.read_store around _⟩

end Delivers

end FileTree

end MarkerReport
