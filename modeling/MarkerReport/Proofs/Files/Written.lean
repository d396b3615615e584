import MarkerReport.Files.Change
import MarkerReport.Files.Read

/-! # Files that have been written

On its way a path meets directories and links alone. So a change that keeps these, such as writing a
file, leaves a path leading where it led (`MarkerReport.FileTree.Keeps.locate`), through links or
not. What has been put into a file is what is read from it
(`MarkerReport.FileTree.Opens.read_store`), and whether that is all that was to be written, a part
of it or nothing is told by what becomes of the bytes (`MarkerReport.FileTree.Opens.write_eq`).
-/

namespace MarkerReport.FileTree

variable {tree : FileTree} {location : Location}

/-- At the top there is a directory, so what is no directory is below. -/
theorem ne_nil_of_lookup_ne_directory (vacant : tree.lookup location ≠ some .directory) :
    location ≠ [] := by
  rintro rfl
  exact vacant rfl

/-- A step to an entry that is no link. -/
theorem follow_enter {links : Nat} {start : Location} {name : String} {later : List Step}
    (directory : tree.lookup start = some .directory)
    (solid : ∀ target, tree.lookup (start ++ [name]) ≠ some (.link target)) :
    tree.follow links start (.enter name :: later) =
      tree.follow links (start ++ [name]) later := by
  rw [follow, directory]
  dsimp only
  split
  · exact (solid _ ‹_›).elim
  · rfl

/-- The directories of a tree are still there in another, and both have the same links and the same
working directory. -/
structure Keeps (before after : FileTree) : Prop where
  home : after.home = before.home
  directory : ∀ {location}, before.lookup location = some .directory →
    after.lookup location = some .directory
  link_iff : ∀ {location target}, after.lookup location = some (.link target) ↔
    before.lookup location = some (.link target)

/-- What is kept by one change and by the next is kept by both. -/
theorem Keeps.trans {first second third : FileTree} (early : first.Keeps second)
    (late : second.Keeps third) : first.Keeps third where
  home := late.home.trans early.home
  directory stands := late.directory (early.directory stands)
  link_iff := late.link_iff.trans early.link_iff

/-- A path that leads somewhere leads there still. -/
theorem Keeps.follow {before after : FileTree} (keeps : before.Keeps after) {links : Nat}
    {start location : Location} {steps : List Step}
    (leads : before.follow links start steps = .ok location) :
    after.follow links start steps = .ok location := by
  -- The induction is along the way; every place that is left on it is a directory.
  fun_induction FileTree.follow before links start steps with
  | case1 links start =>
      rw [FileTree.follow]
      exact leads
  | case2 | case3 | case4 | case7 | case8 => cases leads
  | case5 links start later directory ih | case6 links start later directory ih =>
      rw [FileTree.follow, keeps.directory directory]
      exact ih leads
  | case9 start later directory name target stands links inner steps ih =>
      rw [FileTree.follow, keeps.directory directory]
      simp only [keeps.link_iff.mpr stands, steps]
      exact ih leads
  | case10 links start later directory name notLink ih =>
      rw [follow_enter (keeps.directory directory)]
      · exact ih leads
      · exact fun target linked => notLink target (keeps.link_iff.mp linked)

/-- A path leads to the same location after a change that keeps directories and links. -/
theorem Keeps.locate {before after : FileTree} (keeps : before.Keeps after) {path : String}
    (located : before.locate path = .ok location) : after.locate path = .ok location := by
  unfold FileTree.locate at located ⊢
  rw [keeps.home]
  split at located
  · cases located
  · exact keeps.follow located

/-- The directory that holds the last component of a path is found where it was. -/
theorem Keeps.locateParent {before after : FileTree} (keeps : before.Keeps after) {path : String}
    {found : Location × Step} (located : before.locateParent path = .ok found) :
    after.locateParent path = .ok found := by
  unfold FileTree.locateParent at located ⊢
  rw [keeps.home]
  cases read : Step.ofPath? path with
  | none => simp [read] at located
  | some steps =>
      simp only [read] at located ⊢
      split at located
      · cases located
      · split at located
        · rename_i leads
          simp only [keeps.follow leads]
          exact located
        · cases located

/-- A path that leads to a directory leads to it still. -/
theorem Keeps.find_directory {before after : FileTree} (keeps : before.Keeps after) {path : String}
    (found : before.find path = .ok (location, .directory)) :
    after.find path = .ok (location, .directory) := by
  obtain ⟨located, stands⟩ := find_eq_ok_iff.mp found
  exact find_eq_ok_iff.mpr ⟨keeps.locate located, keeps.directory stands⟩

/-- An entry that is no link may take the place of a file, or a place that is empty. -/
theorem keeps_insert {entry : Entry} (vacant : tree.lookup location ≠ some .directory)
    (solid : ∀ target, tree.lookup location ≠ some (.link target))
    (linkless : ∀ target, entry ≠ .link target) : tree.Keeps (tree.insert location entry) := by
  have below : location ≠ [] := ne_nil_of_lookup_ne_directory vacant
  refine ⟨rfl, ?_, ?_⟩
  · intro other stands
    have apart : other ≠ location := fun same => vacant (same ▸ stands)
    rw [lookup_insert _ _ _ _ below, if_neg apart, stands]
  · intro other target
    rw [lookup_insert _ _ _ _ below]
    by_cases same : other = location
    · subst same
      simp [linkless target, solid target]
    · rw [if_neg same]

/-- Where several files get another content, everything else stands as it did. -/
theorem lookup_refill (tree : FileTree) (locations : List Location) (content : List UInt8)
    (other : Location) :
    (tree.refill locations content).lookup other = (tree.lookup other).map fun
      | .file earlier => .file (if other ∈ locations then content else earlier)
      | entry => entry := by
  by_cases top : other = []
  · subst top
    rfl
  · simp only [lookup, refill, top, if_false]
    induction tree.entries with
    | nil => rfl
    | cons head tail ih =>
        obtain ⟨place, entry⟩ := head
        by_cases here : other = place
        · subst here
          cases entry <;> simp
        · have skip : (other == place) = false := by simp [here]
          cases entry <;> simpa [List.lookup_cons, skip] using ih

/-- Other contents of files leave directories and links in place. -/
theorem keeps_refill (tree : FileTree) (locations : List Location) (content : List UInt8) :
    tree.Keeps (tree.refill locations content) := by
  refine ⟨rfl, ?_, ?_⟩
  · intro location stands
    simp [lookup_refill, stands]
  · intro location target
    rw [lookup_refill]
    cases tree.lookup location with
    | none => simp
    | some entry => cases entry <;> simp

/-- A path leads to a place at which a file can be opened for writing. -/
structure Opens (tree : FileTree) (path : String) (location : Location) : Prop where
  unslashed : path.endsWith "/" = false
  located : tree.locate path = .ok location
  vacant : tree.lookup location ≠ some .directory
  solid : ∀ target, tree.lookup location ≠ some (.link target)

section

variable {path : String}

/-- Writing fails and changes nothing unless a file can be opened. -/
theorem write_cases (tree : FileTree) (path : String) (content : List UInt8)
    (around : Surroundings) :
    (∃ cause, tree.write path content around = (tree, .error cause)) ∨
      ∃ location, tree.Opens path location := by
  unfold write
  by_cases slash : path.endsWith "/"
  · rw [if_pos slash]
    cases tree.locateParent path with
    | error cause => exact .inl ⟨cause, rfl⟩
    | ok _ => exact .inl ⟨.isADirectory, rfl⟩
  rw [if_neg slash]
  have unslashed : path.endsWith "/" = false := by simpa using slash
  cases located : tree.locate path with
  | error cause => exact .inl ⟨cause, rfl⟩
  | ok location =>
      cases stands : tree.lookup location with
      | none => exact .inr ⟨location, unslashed, located, by simp [stands], by simp [stands]⟩
      | some entry =>
          cases entry with
          | file earlier =>
              exact .inr ⟨location, unslashed, located, by simp [stands], by simp [stands]⟩
          | directory => exact .inl ⟨.isADirectory, by simp only [stands]⟩
          | link target => exact .inl ⟨.other, by simp only [stands]⟩

/-- Writing to a file that can be opened puts the bytes where the path leads. -/
theorem Opens.write_eq (opens : tree.Opens path location) (content : List UInt8)
    (around : Surroundings) :
    tree.write path content around = tree.fill around location content := by
  unfold write
  rw [if_neg (by simp [opens.unslashed]), opens.located]
  dsimp only
  split
  · exact (opens.vacant ‹_›).elim
  · exact (opens.solid _ ‹_›).elim
  · rfl

/-- A file that gets another content is in no way of any path. -/
theorem Opens.keeps_store (opens : tree.Opens path location) (around : Surroundings)
    (content : List UInt8) : tree.Keeps (tree.store around location content) := by
  have keeps := keeps_refill tree (around.aliases location) content
  apply keeps.trans
  apply keeps_insert
  · rw [lookup_refill]
    intro directory
    cases stands : tree.lookup location with
    | none => simp [stands] at directory
    | some entry =>
        cases entry with
        | directory => exact opens.vacant stands
        | file _ | link _ => simp [stands] at directory
  · exact fun target linked => opens.solid target (keeps.link_iff.mp linked)
  · simp

/-- What stands at a location after another content has been put into a file. -/
theorem Opens.lookup_store (opens : tree.Opens path location) (around : Surroundings)
    (content : List UInt8) (other : Location) :
    (tree.store around location content).lookup other =
      if other = location then some (.file content)
      else (tree.refill (around.aliases location) content).lookup other :=
  lookup_insert _ _ _ _ (ne_nil_of_lookup_ne_directory opens.vacant)

/-- What has been put into a file is what is read from it. -/
theorem Opens.read_store (opens : tree.Opens path location) (around : Surroundings)
    (content : List UInt8) : (tree.store around location content).read path = .ok content := by
  have located := (opens.keeps_store around content).locate opens.located
  simp [read, find, located, opens.lookup_store]

/-- A file that has been written is read as it was written, where nothing hinders writing. -/
theorem read_of_write {after : FileTree} {content : List UInt8}
    (written : tree.write path content = (after, .ok ())) : after.read path = .ok content := by
  rcases write_cases tree path content .plain with ⟨cause, failed⟩ | ⟨location, opens⟩
  · rw [failed] at written
    cases written
  · rw [opens.write_eq] at written
    obtain rfl := (Prod.mk.inj written).1
    exact opens.read_store .plain content

/-- Whether a file can be written does not depend on what is written. -/
theorem exists_write {after : FileTree} {content : List UInt8}
    (written : tree.write path content = (after, .ok ())) (other : List UInt8) :
    ∃ later, tree.write path other = (later, .ok ()) := by
  rcases write_cases tree path content .plain with ⟨cause, failed⟩ | ⟨location, opens⟩
  · rw [failed] at written
    cases written
  · exact ⟨_, opens.write_eq other .plain⟩

end

end MarkerReport.FileTree
