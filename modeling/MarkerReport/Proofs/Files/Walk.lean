import Mathlib.Data.Finset.Card
import Mathlib.Data.Finset.Prod
import MarkerReport.Proofs.Files.Names
import MarkerReport.Scan.Discovery

/-! # Walks through a file tree

A walk goes from a directory down to a file, from name to name. It may pass through a link, if links
are followed, but not into a directory in which it already is. A walk cannot be longer than
`MarkerReport.FileTree.searchDepth` (`MarkerReport.FileTree.Walk.length_le`): each of its places is
told by two locations, where the walk came out of its last link and where it is, and no two of them
are told by the same.
-/

namespace MarkerReport.FileTree

/-- What a name leads to in the innermost of the directories in which a walk is: an entry that is no
link, or, if links are followed, what a link leads to, unless that is one of the directories. -/
inductive Leads (tree : FileTree) (followLinks : Bool) :
    List Location → String → Location → Entry → Prop
  | entry {here : Location} {above : List Location} {name : String} {entry : Entry}
      (stands : tree.lookup (here ++ [name]) = some entry)
      (solid : ∀ target, entry ≠ .link target) :
      Leads tree followLinks (here :: above) name (here ++ [name]) entry
  | link {here : Location} {above : List Location} {name target : String} {found : Location}
      {entry : Entry} (follows : followLinks = true)
      (stands : tree.lookup (here ++ [name]) = some (.link target))
      (resolved : tree.follow linkLimit here [.enter name] = .ok found)
      (holds : tree.lookup found = some entry)
      (fresh : entry = .directory → found ∉ here :: above) :
      Leads tree followLinks (here :: above) name found entry

/-- The names on the way from the innermost of the given directories down to a file. -/
inductive Walk (tree : FileTree) (followLinks : Bool) : List Location → List String → Prop
  | file {path : List Location} {name : String} {found : Location} {content : List UInt8}
      (leads : tree.Leads followLinks path name found (.file content)) :
      Walk tree followLinks path [name]
  | directory {path : List Location} {name : String} {found : Location} {names : List String}
      (leads : tree.Leads followLinks path name found .directory)
      (below : Walk tree followLinks (found :: path) names) :
      Walk tree followLinks path (name :: names)

/-- A search goes where a name leads, and nowhere else. -/
theorem searched?_eq_some_iff {tree : FileTree} {followLinks : Bool} {here : Location}
    {above : List Location} {name : String} {found : Location} {entry : Entry} :
    tree.searched? followLinks (here :: above) (here ++ [name]) = some (found, entry) ↔
      tree.Leads followLinks (here :: above) name found entry := by
  have parts : (here ++ [name]).dropLast = here ∧ (here ++ [name]).getLastD "" = name := by simp
  unfold searched?
  rw [parts.1, parts.2]
  constructor
  · intro searched
    split at searched
    · rename_i target stands
      split at searched
      · rename_i follows
        split at searched
        · cases searched
        rename_i location resolved
        split at searched
        · rename_i holds
          split at searched
          · cases searched
          · rename_i fresh
            obtain ⟨rfl, rfl⟩ := Prod.mk.inj (Option.some.inj searched)
            exact .link follows stands resolved holds fun _ => by simpa using fresh
        · rename_i other notDirectory holds
          obtain ⟨rfl, rfl⟩ := Prod.mk.inj (Option.some.inj searched)
          exact .link follows stands resolved holds fun same => (notDirectory same).elim
        · cases searched
      · cases searched
    · rename_i other notLink stands
      obtain ⟨rfl, rfl⟩ := Prod.mk.inj (Option.some.inj searched)
      exact .entry stands notLink
    · cases searched
  · rintro (⟨stands, solid⟩ | ⟨follows, stands, resolved, holds, fresh⟩)
    · cases entry with
      | link target => exact (solid target rfl).elim
      | file content => simp [stands]
      | directory => simp [stands]
    · cases entry with
      | directory =>
          have outside := fresh rfl
          simp only [stands, follows, if_true, resolved, holds]
          rw [if_neg (by simpa using outside)]
      | file content => simp [stands, follows, resolved, holds]
      | link target => simp [stands, follows, resolved, holds]

/-- A name that leads somewhere is listed in its directory. -/
theorem Leads.mem_names {tree : FileTree} {followLinks : Bool} {here : Location}
    {above : List Location} {name : String} {found : Location} {entry : Entry}
    (leads : tree.Leads followLinks (here :: above) name found entry) : name ∈ tree.names here := by
  cases leads with
  | entry stands _ => exact mem_names_iff.mpr ⟨_, stands⟩
  | link _ stands _ _ _ => exact mem_names_iff.mpr ⟨_, stands⟩

/-- A walk takes at least one step, to the file. -/
theorem Walk.ne_nil {tree : FileTree} {followLinks : Bool} {path : List Location}
    {names : List String} (walk : tree.Walk followLinks path names) : names ≠ [] := by
  cases walk <;> simp

/-- A walk goes along names. -/
theorem Walk.isName {tree : FileTree} (proper : tree.Proper) {followLinks : Bool}
    {path : List Location} {names : List String} (walk : tree.Walk followLinks path names) :
    ∀ name ∈ names, IsName name := by
  induction walk with
  | @file path name _ _ leads =>
      cases path with
      | nil => cases leads
      | cons here above => simpa using isName_of_mem_names proper leads.mem_names
  | @directory path name _ _ leads _ ih =>
      cases path with
      | nil => cases leads
      | cons here above =>
          exact List.forall_mem_cons.mpr ⟨isName_of_mem_names proper leads.mem_names, ih⟩

/-- The places of a walk, the innermost first: for each, the location at which the walk was when it
last came out of a link, and the location of the place. -/
inductive Trail (tree : FileTree) : List (Location × Location) → Prop
  | start {here : Location} (stands : tree.lookup here = some .directory) :
      Trail tree [(here, here)]
  | down {origin here : Location} {above : List (Location × Location)} {name : String}
      (trail : Trail tree ((origin, here) :: above))
      (stands : tree.lookup (here ++ [name]) = some .directory) :
      Trail tree ((origin, here ++ [name]) :: (origin, here) :: above)
  | jump {found : Location} {above : List (Location × Location)} (trail : Trail tree above)
      (stands : tree.lookup found = some .directory) (fresh : found ∉ above.map Prod.snd) :
      Trail tree ((found, found) :: above)

/-- The walk has been where it last came out of a link. -/
theorem Trail.origin_mem {tree : FileTree} {trail : List (Location × Location)}
    (sound : tree.Trail trail) {place : Location × Location} (member : place ∈ trail) :
    place.1 ∈ trail.map Prod.snd := by
  induction sound generalizing place with
  | start _ =>
      obtain rfl := List.mem_singleton.mp member
      simp
  | @down origin here above _ _ _ ih =>
      obtain rfl | earlier := List.mem_cons.mp member
      · have inherited : origin ∈ ((origin, here) :: above).map Prod.snd :=
          @ih (origin, here) (List.mem_cons_self ..)
        exact List.mem_cons_of_mem _ inherited
      · exact List.mem_cons_of_mem _ (ih earlier)
  | jump _ _ _ ih =>
      obtain rfl | earlier := List.mem_cons.mp member
      · simp
      · exact List.mem_cons_of_mem _ (ih earlier)

/-- Since it last came out of a link, the walk has only gone down. -/
theorem Trail.length_le_head {tree : FileTree} {trail : List (Location × Location)}
    (sound : tree.Trail trail) {last place : Location × Location} (innermost : last ∈ trail.head?)
    (member : place ∈ trail) (alike : place.1 = last.1) : place.2.length ≤ last.2.length := by
  induction sound generalizing last with
  | start _ =>
      obtain rfl := Option.some.inj innermost
      obtain rfl := List.mem_singleton.mp member
      exact le_rfl
  | @down origin here above name _ _ ih =>
      obtain rfl := Option.some.inj innermost
      obtain rfl | earlier := List.mem_cons.mp member
      · exact le_rfl
      · have shorter : place.2.length ≤ here.length := @ih (origin, here) rfl earlier alike
        rw [List.length_append]
        omega
  | jump sound _ fresh _ =>
      obtain rfl := Option.some.inj innermost
      obtain rfl | earlier := List.mem_cons.mp member
      · exact le_rfl
      · have known := sound.origin_mem earlier
        rw [alike] at known
        exact (fresh known).elim

/-- No place of a walk is told by the same two locations as another one. -/
theorem Trail.nodup {tree : FileTree} {trail : List (Location × Location)}
    (sound : tree.Trail trail) : trail.Nodup := by
  induction sound with
  | start _ => simp
  | down sound _ ih =>
      refine List.nodup_cons.mpr ⟨fun repeated => ?_, ih⟩
      have shorter := sound.length_le_head rfl repeated rfl
      simp only [List.length_append, List.length_singleton] at shorter
      omega
  | jump _ _ fresh ih =>
      refine List.nodup_cons.mpr ⟨fun repeated => ?_, ih⟩
      exact fresh (List.mem_map_of_mem repeated)

/-- The places of a walk are directories. -/
theorem Trail.stands {tree : FileTree} {trail : List (Location × Location)}
    (sound : tree.Trail trail) {location : Location} (member : location ∈ trail.map Prod.snd) :
    tree.lookup location = some .directory := by
  induction sound with
  | start stands =>
      obtain rfl : location = _ := by simpa using member
      exact stands
  | down _ stands ih =>
      obtain rfl | earlier := List.mem_cons.mp member
      · exact stands
      · exact ih earlier
  | jump _ stands _ ih =>
      obtain rfl | earlier := List.mem_cons.mp member
      · exact stands
      · exact ih earlier

/-- The locations at which a tree has anything. -/
def places (tree : FileTree) : Finset Location := ([] :: tree.entries.map Prod.fst).toFinset

/-- Where something stands is one of the places of the tree. -/
theorem mem_places_of_lookup {tree : FileTree} {location : Location} {entry : Entry}
    (stands : tree.lookup location = some entry) : location ∈ tree.places := by
  rw [places, List.mem_toFinset, List.mem_cons]
  by_cases top : location = []
  · exact .inl top
  · exact .inr ((exists_lookup_iff top).mp ⟨entry, stands⟩)

/-- A tree has no more places than entries and the top. -/
theorem card_places_le (tree : FileTree) : tree.places.card ≤ tree.entries.length + 1 := by
  refine (List.toFinset_card_le _).trans ?_
  simp

/-- A walk is no longer than there are pairs of places. -/
theorem Trail.length_le {tree : FileTree} {trail : List (Location × Location)}
    (sound : tree.Trail trail) : trail.length ≤ tree.searchDepth := by
  have within : trail.toFinset ⊆ tree.places ×ˢ tree.places := by
    intro place member
    rw [List.mem_toFinset] at member
    rw [Finset.mem_product]
    exact ⟨mem_places_of_lookup (sound.stands (sound.origin_mem member)),
      mem_places_of_lookup (sound.stands (List.mem_map_of_mem member))⟩
  calc trail.length = trail.toFinset.card := (List.toFinset_card_of_nodup sound.nodup).symm
    _ ≤ (tree.places ×ˢ tree.places).card := Finset.card_le_card within
    _ = tree.places.card * tree.places.card := Finset.card_product _ _
    _ ≤ tree.searchDepth := Nat.mul_le_mul (card_places_le tree) (card_places_le tree)

/-- A name that leads to a directory leads to a further place of the walk. -/
theorem Trail.exists_cons {tree : FileTree} {followLinks : Bool}
    {trail : List (Location × Location)} (sound : tree.Trail trail) {name : String}
    {found : Location} (leads : tree.Leads followLinks (trail.map Prod.snd) name found .directory) :
    ∃ origin, tree.Trail ((origin, found) :: trail) := by
  generalize directories : trail.map Prod.snd = path at leads
  cases leads with
  | entry stands _ =>
      cases trail with
      | nil => simp at directories
      | cons last above =>
          obtain ⟨rfl, -⟩ := List.cons.inj directories
          exact ⟨last.1, .down sound stands⟩
  | link _ _ _ holds fresh =>
      rw [← directories] at fresh
      exact ⟨found, .jump sound holds (fresh rfl)⟩

/-- However far a walk has come, what is left of it fits into the bound. -/
theorem Walk.length_trail_le {tree : FileTree} {followLinks : Bool} {path : List Location}
    {names : List String} (walk : tree.Walk followLinks path names)
    {trail : List (Location × Location)} (sound : tree.Trail trail)
    (directories : trail.map Prod.snd = path) :
    trail.length + names.length ≤ tree.searchDepth + 1 := by
  induction walk generalizing trail with
  | file leads =>
      have bound := sound.length_le
      rw [List.length_singleton]
      omega
  | directory leads below ih =>
      subst directories
      obtain ⟨origin, longer⟩ := sound.exists_cons leads
      have bound := ih longer rfl
      rw [List.length_cons] at bound ⊢
      omega

/-- A search that goes as deep as `searchDepth` misses no walk. -/
theorem Walk.length_le {tree : FileTree} {followLinks : Bool} {here : Location}
    {names : List String} (stands : tree.lookup here = some .directory)
    (walk : tree.Walk followLinks [here] names) : names.length ≤ tree.searchDepth := by
  have bound := walk.length_trail_le (.start stands) rfl
  rw [List.length_singleton] at bound
  omega

end MarkerReport.FileTree
