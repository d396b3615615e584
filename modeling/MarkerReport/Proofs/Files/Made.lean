import MarkerReport.Proofs.Files.Names
import MarkerReport.Proofs.Files.Written

/-! # Directories that have been made

Making a directory, with those above it that do not exist, changes a tree only where nothing stood
before; what stands there afterwards is a directory that one of the paths asked for leads to
(`MarkerReport.FileTree.grows_makeAllOf`). This holds whether or not all of them could be made.
-/

namespace MarkerReport

/-- An empty piece at the end asks for the directory itself. -/
theorem Step.getLast?_ofPieces (pieces : List (List Char)) :
    (Step.ofPieces (pieces ++ [[]])).getLast? = some .stay := by
  induction pieces with
  | nil => rfl
  | cons piece pieces ih =>
      have further : pieces ++ [[]] ≠ [] := by simp
      cases piece with
      | nil =>
          rw [List.cons_append, Step.ofPieces.eq_3 _ further]
          exact ih
      | cons c piece =>
          rw [List.cons_append, Step.ofPieces.eq_4 _ _ (by simp) (by simp), List.getLast?_cons, ih]
          rfl

/-- A path that ends in a separator ends with a step to the directory itself. -/
theorem Step.getLast?_of_ofPath? {path : String} {steps : List Step}
    (read : Step.ofPath? path = some steps) (slash : path.endsWith "/") :
    steps.getLast? = some .stay := by
  unfold Step.ofPath? at read
  split at read
  · cases read
  · obtain rfl := Option.some.inj read
    obtain ⟨front, ends⟩ := List.getLast?_eq_some_iff.mp ((Path.endsWith_slash_iff path).mp slash)
    rw [ends, Path.pieces_append_slash]
    exact Step.getLast?_ofPieces _

namespace FileTree

variable {tree : FileTree} {location directory : Location} {path name : String}

/-- The way to a directory can be gone on from there. -/
theorem exists_follow_append {links : Nat} {start : Location} {front : List Step}
    (leads : tree.follow links start (front ++ [.stay]) = .ok directory) :
    tree.lookup directory = some .directory ∧
      ∃ left, ∀ tail,
        tree.follow links start (front ++ tail) = tree.follow left directory tail := by
  generalize whole : front ++ [.stay] = steps at leads
  -- The induction is along the way to the directory; a link puts its own steps before the rest.
  fun_induction follow tree links start steps generalizing front with
  | case1 => simp at whole
  | case2 | case3 | case4 | case7 | case8 => cases leads
  | case5 links start later stands ih =>
      cases front with
      | nil =>
          obtain rfl : later = [] := by simpa using whole.symm
          rw [follow] at leads
          obtain rfl := Except.ok.inj leads
          exact ⟨stands, links, fun tail => rfl⟩
      | cons step front =>
          obtain ⟨rfl, rest⟩ := List.cons.inj whole
          obtain ⟨reached, left, onward⟩ := ih rest leads
          refine ⟨reached, left, fun tail => ?_⟩
          rw [List.cons_append, follow, stands]
          exact onward tail
  | case6 links start later stands ih =>
      cases front with
      | nil => simp at whole
      | cons step front =>
          obtain ⟨rfl, rest⟩ := List.cons.inj whole
          obtain ⟨reached, left, onward⟩ := ih rest leads
          refine ⟨reached, left, fun tail => ?_⟩
          rw [List.cons_append, follow, stands]
          exact onward tail
  | case9 start later stands name target linked links inner steps ih =>
      cases front with
      | nil => simp at whole
      | cons step front =>
          obtain ⟨rfl, rest⟩ := List.cons.inj whole
          obtain ⟨reached, left, onward⟩ := @ih (inner ++ front) (by simp [← rest]) leads
          refine ⟨reached, left, fun tail => ?_⟩
          rw [List.cons_append, follow, stands]
          simp only [linked, steps, ← List.append_assoc]
          exact onward tail
  | case10 links start later stands name notLink ih =>
      cases front with
      | nil => simp at whole
      | cons step front =>
          obtain ⟨rfl, rest⟩ := List.cons.inj whole
          obtain ⟨reached, left, onward⟩ := ih rest leads
          refine ⟨reached, left, fun tail => ?_⟩
          rw [List.cons_append, follow_enter stands notLink]
          exact onward tail

/-- A path leads to the directory of the name that it ends with, in the directory above. -/
theorem find_of_locateParent (above : tree.locateParent path = .ok (directory, .enter name))
    (stands : tree.lookup (directory ++ [name]) = some .directory) :
    tree.find path = .ok (directory ++ [name], .directory) := by
  unfold locateParent at above
  cases read : Step.ofPath? path with
  | none => simp [read] at above
  | some steps =>
      simp only [read] at above
      split at above
      · cases above
      · rename_i last ends
        split at above
        · rename_i found leads
          obtain ⟨rfl, rfl⟩ : found = directory ∧ last = .enter name := by simpa using above
          obtain ⟨reached, left, onward⟩ := exists_follow_append leads
          have entered (later : List Step) :
              tree.follow left found (.enter name :: later) =
                tree.follow left (found ++ [name]) later :=
            follow_enter reached (by simp [stands])
          have located : tree.locate path = .ok (found ++ [name]) := by
            obtain ⟨front, named⟩ := List.getLast?_eq_some_iff.mp ends
            rw [named, List.dropLast_concat] at onward
            simp only [locate, read]
            by_cases slash : steps.length > 1 && path.endsWith "/"
            · -- The separator at the end adds a step that stays where the name has led.
              rw [if_pos slash] at named
              have stays := Step.getLast?_of_ofPath? read (Bool.and_eq_true_iff.mp slash).2
              rw [← List.dropLast_append_getLast? _ stays, named, List.append_assoc, onward]
              simp [entered, follow, stands]
            · rw [if_neg slash] at named
              rw [named, onward, entered, follow]
          simp [find, located, stands]
        · cases above

/-- Making a directory puts one where nothing stood and the path leads, or changes nothing. -/
theorem makeDirectory_cases (tree : FileTree) (path : String) (around : Surroundings) :
    (tree.makeDirectory path around).1 = tree ∨ ∃ location, tree.lookup location = none ∧
      (tree.makeDirectory path around).1 = tree.insert location .directory ∧
      (tree.insert location .directory).find path = .ok (location, .directory) := by
  unfold makeDirectory
  cases above : tree.locateParent path with
  | error cause => exact .inl rfl
  | ok found =>
      obtain ⟨directory, last⟩ := found
      cases last with
      | stay => exact .inl rfl
      | up => exact .inl rfl
      | enter name =>
          cases stands : tree.lookup (directory ++ [name]) with
          | some entry => exact .inl (by simp only [stands])
          | none =>
              cases refused : around.refusal (directory ++ [name]) with
              | some cause => exact .inl (by simp only [stands, refused])
              | none =>
                  refine .inr ⟨directory ++ [name], stands, by simp only [stands, refused], ?_⟩
                  have keeps : tree.Keeps (tree.insert (directory ++ [name]) .directory) :=
                    keeps_insert (by simp [stands]) (by simp [stands]) (by simp)
                  apply find_of_locateParent (keeps.locateParent above)
                  rw [lookup_insert _ _ _ _ (by simp), if_pos rfl]

/-- Where a directory stands that was not there before, one of the given paths leads to it. -/
structure Made (before after : FileTree) (paths : List String) (location : Location) : Prop where
  vacant : before.lookup location = none
  leads : ∃ path ∈ paths, after.find path = .ok (location, .directory)

/-- A tree has become another by making directories that the given paths lead to. -/
structure Grows (before after : FileTree) (paths : List String) : Prop where
  home : after.home = before.home
  elsewhere : ∀ location,
    after.lookup location = before.lookup location ∨ Made before after paths location

/-- What has been made is a directory. -/
theorem Made.lookup {before after : FileTree} {paths : List String}
    (made : Made before after paths location) : after.lookup location = some .directory := by
  obtain ⟨path, -, found⟩ := made.leads
  exact (find_eq_ok_iff.mp found).2

/-- A tree that stays as it is has grown by nothing. -/
theorem Grows.refl (tree : FileTree) (paths : List String) : tree.Grows tree paths :=
  ⟨rfl, fun _ => .inl rfl⟩

/-- What has been made along some paths has been made along more of them. -/
theorem Grows.mono {before after : FileTree} {paths more : List String}
    (grows : before.Grows after paths) (listed : paths ⊆ more) : before.Grows after more := by
  refine ⟨grows.home, fun location => ?_⟩
  rcases grows.elsewhere location with same | made
  · exact .inl same
  · obtain ⟨path, member, found⟩ := made.leads
    exact .inr ⟨made.vacant, path, listed member, found⟩

/-- Directories are only made where nothing stood, so directories and links are kept. -/
theorem Grows.keeps {before after : FileTree} {paths : List String}
    (grows : before.Grows after paths) : before.Keeps after := by
  refine ⟨grows.home, ?_, ?_⟩
  · intro location stands
    rcases grows.elsewhere location with same | made
    · rw [same, stands]
    · exact made.lookup
  · intro location target
    rcases grows.elsewhere location with same | made
    · rw [same]
    · simp [made.lookup, made.vacant]

/-- A tree that has grown twice has grown by what was made both times. -/
theorem Grows.trans {first second third : FileTree} {paths : List String}
    (early : first.Grows second paths) (late : second.Grows third paths) :
    first.Grows third paths := by
  refine ⟨late.home.trans early.home, fun location => ?_⟩
  rcases late.elsewhere location with same | made
  · rcases early.elsewhere location with unchanged | before
    · exact .inl (same.trans unchanged)
    · obtain ⟨path, member, found⟩ := before.leads
      exact .inr ⟨before.vacant, path, member, late.keeps.find_directory found⟩
  · rcases early.elsewhere location with unchanged | before
    · exact .inr ⟨unchanged.symm.trans made.vacant, made.leads⟩
    · have occupied := before.lookup
      rw [made.vacant] at occupied
      cases occupied

/-- Making a directory makes nothing but what its path leads to. -/
theorem grows_makeDirectory (tree : FileTree) (path : String) (around : Surroundings) :
    tree.Grows (tree.makeDirectory path around).1 [path] := by
  rcases makeDirectory_cases tree path around with same | ⟨made, vacant, changed, found⟩
  · rw [same]
    exact Grows.refl tree [path]
  · rw [changed]
    refine ⟨rfl, fun location => ?_⟩
    by_cases here : location = made
    · subst here
      exact .inr ⟨vacant, path, by simp, found⟩
    · have below : made ≠ [] := by
        rintro rfl
        cases vacant
      exact .inl (by rw [lookup_insert _ _ _ _ below, if_neg here])

/-- Making sure of a directory leaves the tree that making it leaves. -/
theorem ensureDirectory_tree (tree : FileTree) (path : String) (around : Surroundings) :
    (tree.ensureDirectory path around).1 = (tree.makeDirectory path around).1 := by
  unfold ensureDirectory
  split
  · rename_i after made
    rw [made]
  · rename_i after cause failed
    rw [failed]
    split <;> rfl

/-- What making a directory along one of some paths preserves is preserved by making directories
along all of them, however far that gets. -/
theorem preserves_makeAllOf {motive : FileTree → Prop} {paths : List String} {around : Surroundings}
    (holds : motive tree)
    (step : ∀ before, motive before → ∀ path ∈ paths, motive (before.makeDirectory path around).1) :
    motive (tree.makeAllOf around paths).1 := by
  induction paths generalizing tree with
  | nil => exact holds
  | cons path above ih =>
      have here (before : FileTree) (stands : motive before) :
          motive (before.ensureDirectory path around).1 := by
        rw [ensureDirectory_tree]
        exact step before stands path (List.mem_cons_self ..)
      have first := here tree holds
      rw [makeAllOf]
      split
      · rename_i after missing
        rw [missing] at first
        have second : motive (after.makeAllOf around above).1 := by
          apply ih first
          intro before stands other listed
          exact step before stands other (List.mem_cons_of_mem _ listed)
        split
        · rename_i made done
          rw [done] at second
          exact here made second
        · rename_i made cause failed
          rwa [failed] at second
      · exact first

/-- However far the making of directories gets, it only adds directories that were asked for. -/
theorem grows_makeAllOf (tree : FileTree) (paths : List String) (around : Surroundings) :
    tree.Grows (tree.makeAllOf around paths).1 paths := by
  apply preserves_makeAllOf (motive := (tree.Grows · paths)) (Grows.refl tree paths)
  intro before grows path listed
  apply grows.trans
  apply (grows_makeDirectory before path around).mono
  simpa using listed

end FileTree

end MarkerReport
