import MarkerReport.Command.Run
import MarkerReport.Proofs.Files.Made

/-! # Proper trees

In a proper tree every entry has a location of its own and is reached by names. The tree that a
program starts from is proper, and everything that changes a tree leaves it so: the places at which
paths lead to new entries are told by pieces of paths, and no piece holds a separator
(`MarkerReport.FileTree.Proper.locate`). So properness is no assumption on the trees that commands
see (`MarkerReport.Request.proper_run`).
-/

namespace MarkerReport

/-- A piece of a path holds no separator. -/
theorem Path.unbroken_of_mem_pieces {text piece : List Char} (member : piece ∈ pieces text) :
    '/' ∉ piece := by
  induction text generalizing piece with
  | nil =>
      obtain rfl := List.mem_singleton.mp member
      exact List.not_mem_nil
  | cons c rest ih =>
      rw [pieces] at member
      by_cases slash : c = '/'
      · rw [if_pos slash, List.mem_cons] at member
        obtain rfl | later := member
        · exact List.not_mem_nil
        · exact ih later
      · rw [if_neg slash] at member
        obtain ⟨first, later, cut⟩ := List.exists_cons_of_ne_nil (pieces_ne_nil rest)
        rw [cut] at member ih
        obtain rfl | behind := List.mem_cons.mp member
        · rw [List.mem_cons, not_or]
          exact ⟨fun same => slash same.symm, ih (List.mem_cons_self ..)⟩
        · exact ih (List.mem_cons_of_mem _ behind)

namespace Step

/-- Pieces of a path make at least one step. -/
theorem ofPieces_ne_nil {pieces : List (List Char)} (occupied : pieces ≠ []) :
    ofPieces pieces ≠ [] := by
  fun_induction ofPieces pieces with
  | case1 => exact (occupied rfl).elim
  | case2 => exact List.cons_ne_nil _ _
  | case3 later further ih => exact ih further
  | case4 => exact List.cons_ne_nil _ _

/-- The steps of unbroken pieces enter by names. -/
theorem isName_of_mem_ofPieces {pieces : List (List Char)}
    (unbroken : ∀ piece ∈ pieces, '/' ∉ piece) {name : String}
    (member : .enter name ∈ ofPieces pieces) : IsName name := by
  fun_induction ofPieces pieces with
  | case1 => cases member
  | case2 => simp at member
  | case3 later _ ih =>
      exact ih (fun piece listed => unbroken piece (List.mem_cons_of_mem _ listed)) member
  | case4 piece later notLast filled ih =>
      rcases List.mem_cons.mp member with first | behind
      · split at first
        · cases first
        · rename_i notHere
          split at first
          · cases first
          · rename_i notAbove
            obtain rfl := Step.enter.inj first
            refine ⟨fun empty => filled ?_, ?_, fun dot => notHere ?_, fun dots => notAbove ?_⟩
            · simpa using congrArg String.toList empty
            · simpa using unbroken piece (List.mem_cons_self ..)
            · simpa using congrArg String.toList dot
            · simpa using congrArg String.toList dots
      · exact ih (fun piece listed => unbroken piece (List.mem_cons_of_mem _ listed)) behind

/-- A path that is not empty has steps. -/
theorem ne_nil_of_ofPath? {path : String} {steps : List Step}
    (read : ofPath? path = some steps) : steps ≠ [] := by
  unfold ofPath? at read
  split at read
  · cases read
  · obtain rfl := Option.some.inj read
    exact ofPieces_ne_nil (Path.pieces_ne_nil _)

/-- The steps along a path enter by names. -/
theorem isName_of_mem_ofPath? {path : String} {steps : List Step} (read : ofPath? path = some steps)
    {name : String} (member : .enter name ∈ steps) : IsName name := by
  unfold ofPath? at read
  split at read
  · cases read
  · obtain rfl := Option.some.inj read
    exact isName_of_mem_ofPieces (fun _ => Path.unbroken_of_mem_pieces) member

end Step

namespace FileTree

variable {tree : FileTree} {location directory : Location} {path name : String}
  {around : Surroundings}

namespace Proper

/-- Whatever stands in a proper tree is reached by names. -/
theorem isName_of_lookup (proper : tree.Proper) {entry : Entry}
    (stands : tree.lookup location = some entry) : ∀ name ∈ location, IsName name := by
  by_cases top : location = []
  · subst top
    exact fun _ => nofun
  · exact proper.named location ((exists_lookup_iff top).mp ⟨entry, stands⟩)

end Proper

/-- Steps that enter by names lead to locations that are told by names. -/
theorem isName_of_follow {links : Nat} {start : Location} {steps : List Step}
    (named : ∀ name ∈ start, IsName name) (entering : ∀ name, .enter name ∈ steps → IsName name)
    (leads : tree.follow links start steps = .ok location) : ∀ name ∈ location, IsName name := by
  fun_induction follow tree links start steps with
  | case1 =>
      obtain rfl := Except.ok.inj leads
      exact named
  | case2 | case3 | case4 | case7 | case8 => cases leads
  | case5 links start later stands ih =>
      exact ih named (fun name listed => entering name (List.mem_cons_of_mem _ listed)) leads
  | case6 links start later stands ih =>
      apply ih _ _ leads
      · exact fun name listed => named name ((List.dropLast_sublist _).subset listed)
      · exact fun name listed => entering name (List.mem_cons_of_mem _ listed)
  | case9 start later stands name target linked links inner read ih =>
      apply ih _ _ leads
      · intro name listed
        unfold Step.start at listed
        split at listed
        · cases listed
        · exact named name listed
      · intro name listed
        rcases List.mem_append.mp listed with inside | behind
        · exact Step.isName_of_mem_ofPath? read inside
        · exact entering name (List.mem_cons_of_mem _ behind)
  | case10 links start later stands name notLink ih =>
      apply ih _ _ leads
      · intro other listed
        rcases List.mem_append.mp listed with above | here
        · exact named other above
        · obtain rfl := List.mem_singleton.mp here
          exact entering other (List.mem_cons_self ..)
      · exact fun name listed => entering name (List.mem_cons_of_mem _ listed)

/-- Steps are taken in directories only. -/
theorem lookup_of_follow {links : Nat} {start : Location} {steps : List Step} (walked : steps ≠ [])
    (leads : tree.follow links start steps = .ok location) :
    tree.lookup start = some .directory := by
  obtain ⟨step, later, rfl⟩ := List.exists_cons_of_ne_nil walked
  cases stands : tree.lookup start with
  | none => simp [follow.eq_def, stands] at leads
  | some entry =>
      cases entry with
      | directory => rfl
      | file _ | link _ => simp [follow.eq_def, stands] at leads

namespace Proper

/-- A way from where a path starts leads to a location that is told by names. -/
theorem isName_of_follow_start (proper : tree.Proper) {links : Nat} {steps : List Step}
    (walked : steps ≠ []) (entering : ∀ name, .enter name ∈ steps → IsName name)
    (leads : tree.follow links (Step.start tree.home path) steps = .ok location) :
    ∀ name ∈ location, IsName name :=
  isName_of_follow (proper.isName_of_lookup (lookup_of_follow walked leads)) entering leads

/-- A path leads to a location that is told by names. -/
theorem locate (proper : tree.Proper) (located : tree.locate path = .ok location) :
    ∀ name ∈ location, IsName name := by
  unfold FileTree.locate at located
  split at located
  · cases located
  · rename_i steps read
    exact proper.isName_of_follow_start (Step.ne_nil_of_ofPath? read)
      (fun name => Step.isName_of_mem_ofPath? read) located

/-- The directory that holds what a path ends with is told by names, and so is that, if it is
entered. -/
theorem locateParent (proper : tree.Proper)
    (located : tree.locateParent path = .ok (directory, .enter name)) :
    ∀ other ∈ directory ++ [name], IsName other := by
  unfold FileTree.locateParent at located
  split at located
  · cases located
  rename_i steps read
  dsimp only at located
  generalize shortened : (if steps.length > 1 && path.endsWith "/" then steps.dropLast
    else steps) = named at located
  have among : named ⊆ steps := by
    rw [← shortened]
    split
    · exact (List.dropLast_sublist steps).subset
    · exact List.Subset.refl steps
  have entering (other : String) (member : .enter other ∈ named) : IsName other :=
    Step.isName_of_mem_ofPath? read (among member)
  split at located
  · cases located
  rename_i last ends
  split at located
  · rename_i found leads
    obtain ⟨rfl, rfl⟩ : found = directory ∧ last = .enter name := by simpa using located
    have entered (other : String) (member : .enter other ∈ named.dropLast ++ [.stay]) :
        IsName other := by
      rcases List.mem_append.mp member with front | stays
      · exact entering other ((List.dropLast_sublist named).subset front)
      · simp at stays
    have above := proper.isName_of_follow_start (by simp) entered leads
    intro other member
    rcases List.mem_append.mp member with front | here
    · exact above other front
    · obtain rfl := List.mem_singleton.mp here
      exact entering other (List.mem_of_getLast? ends)
  · cases located

/-- An entry may be put wherever names lead. -/
theorem insert (proper : tree.Proper) (named : ∀ name ∈ location, IsName name) (entry : Entry) :
    (tree.insert location entry).Proper := by
  have others : List.Sublist ((tree.insert location entry).entries.tail.map Prod.fst)
      (tree.entries.map Prod.fst) := List.filter_sublist.map _
  constructor
  · refine List.nodup_cons.mpr ⟨fun repeated => ?_, proper.nodup.sublist others⟩
    obtain ⟨⟨other, _⟩, listed, rfl⟩ := List.mem_map.mp repeated
    simpa using (List.mem_filter.mp listed).2
  · intro other member
    rcases List.mem_cons.mp member with rfl | earlier
    · exact named
    · exact proper.named other (others.subset earlier)

/-- Other contents of files leave the locations as they are. -/
theorem refill (proper : tree.Proper) (locations : List Location) (content : List UInt8) :
    (tree.refill locations content).Proper := by
  have same : (tree.refill locations content).entries.map Prod.fst =
      tree.entries.map Prod.fst := by
    rw [FileTree.refill, List.map_map]
    apply List.map_congr_left
    rintro ⟨other, entry⟩ -
    cases entry <;> rfl
  exact ⟨same ▸ proper.nodup, same ▸ proper.named⟩

/-- A tree stays proper when entries are removed. -/
theorem erase (proper : tree.Proper) (top : Location) : (tree.erase top).Proper := by
  have fewer : List.Sublist ((tree.erase top).entries.map Prod.fst)
      (tree.entries.map Prod.fst) := List.filter_sublist.map _
  exact ⟨proper.nodup.sublist fewer, fun other member => proper.named other (fewer.subset member)⟩

/-- Writing a file leaves a tree proper, however far it gets. -/
theorem write (proper : tree.Proper) (path : String) (content : List UInt8)
    (around : Surroundings) : (tree.write path content around).1.Proper := by
  rcases tree.write_cases path content around with ⟨cause, failed⟩ | ⟨location, opens⟩
  · rwa [failed]
  have stored (bytes : List UInt8) : (tree.store around location bytes).Proper :=
    (proper.refill _ _).insert (proper.locate opens.located) _
  rw [opens.write_eq, fill]
  cases around.refusal location with
  | some cause => exact proper
  | none =>
      cases around.fate location with
      | kept => exact stored content
      | dropped => exact proper
      | cut count cause => exact stored (content.take count)

/-- Making a directory leaves a tree proper. -/
theorem makeDirectory (proper : tree.Proper) (path : String) (around : Surroundings) :
    (tree.makeDirectory path around).1.Proper := by
  unfold FileTree.makeDirectory
  split
  · exact proper
  · rename_i located
    split
    · exact proper
    · split
      · exact proper
      · exact proper.insert (proper.locateParent located) _
  · exact proper

/-- Making directories leaves a tree proper, however far it gets. -/
theorem makeAllOf (proper : tree.Proper) (around : Surroundings) (paths : List String) :
    (tree.makeAllOf around paths).1.Proper := by
  apply preserves_makeAllOf proper
  intro before ready path _
  exact ready.makeDirectory path around

/-- A tree stays proper when an entry is put at a path. -/
theorem put (proper : tree.Proper) (path : String) (entry : Entry) :
    (tree.put path entry).Proper := by
  have ready : (tree.makeDirectories ((Path.parent? path).getD "")).1.Proper :=
    proper.makeAllOf .plain _
  unfold FileTree.put
  cases entry with
  | file content => exact ready.write path content .plain
  | directory => exact ready.makeAllOf .plain _
  | link target =>
      dsimp only
      split
      · rename_i located
        exact (ready.erase _).insert (ready.locateParent located) _
      · exact ready

/-- A tree stays proper when what stands at a path is removed. -/
theorem remove (proper : tree.Proper) (path : String) : (tree.remove path).Proper := by
  unfold FileTree.remove
  split
  · exact proper.erase _
  · exact proper

end Proper

/-- The tree that files are put into is proper. -/
theorem proper_empty : empty.Proper := by decide +kernel

end FileTree

/-- Writing a report leaves a tree proper. -/
theorem ReportLayout.proper_write {tree : FileTree} (proper : tree.Proper) (layout : ReportLayout)
    (root : String) (items : List Item) (path : String) (around : Surroundings) :
    (layout.write root items tree path around).1.Proper := by
  have ready : (makeParent tree path around).1.Proper := by
    rw [makeParent_tree]
    cases Path.parent? path with
    | none => exact proper
    | some parent => exact proper.makeAllOf around _
  unfold write
  split
  · rename_i after error failed
    rwa [failed] at ready
  · rename_i after done
    rw [done] at ready
    have written := ready.write path (Utf8.encode (layout.render root items)) around
    split
    · rename_i stored kept
      rwa [kept] at written
    · rename_i stored cause refused
      rwa [refused] at written

/-- Whatever a command does, and whether or not it succeeds, it leaves a proper tree proper. -/
theorem Request.proper_run {tree : FileTree} (proper : tree.Proper) (request : Request)
    (around : Surroundings) : (request.run tree around).tree.Proper := by
  cases request with
  | scan request =>
      unfold Request.run ScanRequest.run
      dsimp only
      split
      · exact proper
      · exact proper
      · exact ReportLayout.proper_write proper _ _ _ _ _
  | printDefaultConfig => exact proper
  | listLanguages => exact proper

end MarkerReport
