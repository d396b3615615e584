import MarkerReport.Error
import MarkerReport.Files.Tree

/-! # What comes of writing

Whether a file can be written is not told by a file tree alone. Permissions may forbid to open it;
once it is open, and so emptied, writing may stop half-way, for want of room say. A device may take
all bytes and keep none. And a file may stand at several locations, at all of which a change to it
shows.
-/

namespace MarkerReport

/-- What becomes of the bytes that are written to an open file. -/
inductive Fate where
  /-- They are the content of the file. -/
  | kept
  /-- They are taken, and the file stays as it was. -/
  | dropped
  /-- So many of them are written, then writing fails. -/
  | cut (count : Nat) (cause : IoCause)
deriving Repr, DecidableEq, Inhabited

/-- What comes of writing at the locations of a file tree. Unless more is said, it works out. -/
structure Surroundings where
  /-- Why no directory can be made and no file be opened at a location, if there is a reason, such
  as `IoCause.permissionDenied`. -/
  refusal : Location → Option IoCause := fun _ => none
  /-- What becomes of the bytes that are written to the file at a location. -/
  fate : Location → Fate := fun _ => .kept
  /-- The further locations of the file at a location. -/
  aliases : Location → List Location := fun _ => []

namespace Surroundings

/-- Nothing is refused, and whatever is written is kept. -/
def plain : Surroundings := {}

/-- Nothing is refused, and whatever is written is kept except by the null device. -/
def usual : Surroundings :=
  { fate := fun location => if location = nullDevice then .dropped else .kept }

end Surroundings

end MarkerReport
