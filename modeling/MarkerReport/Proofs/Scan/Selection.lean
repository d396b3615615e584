import MarkerReport.Proofs.Files.Walk

/-! # Which files a scan looks at

A search below a directory prunes what is left out and does not go into it, so whether a file is
found hangs on everything on the way to it. Here the files are told by the walks that lead to them
(`MarkerReport.FileTree.discover_selects`): a file is found just if some walk leads to it, its
extension is allowed, and nothing on the way is left out.
-/

namespace MarkerReport.FileTree

/-- Whether nothing on the way along names is left out, given how the way starts as printed and as
seen from where the scan starts. -/
def Kept (excludes : List Glob) (printed relative : String) (names : List String) : Prop :=
  ∀ count, 1 ≤ count → count ≤ names.length →
    leftOut excludes (Path.joinAll printed (names.take count))
      (Path.joinAll relative (names.take count)) = false

theorem kept_nil (excludes : List Glob) (printed relative : String) :
    Kept excludes printed relative [] := by
  intro count positive within
  rw [List.length_nil] at within
  omega

/-- A walk is kept exactly when its first entry is and the walk on from there. -/
theorem kept_cons_iff {excludes : List Glob} {printed relative name : String}
    {names : List String} :
    Kept excludes printed relative (name :: names) ↔
      leftOut excludes (Path.join printed name) (Path.join relative name) = false ∧
        Kept excludes (Path.join printed name) (Path.join relative name) names := by
  constructor
  · intro kept
    refine ⟨kept 1 le_rfl (by simp), fun count _ within => ?_⟩
    exact kept (count + 1) (by omega) (by simpa using within)
  · rintro ⟨here, below⟩ count positive within
    obtain ⟨count, rfl⟩ := Nat.exists_eq_add_of_le' positive
    rw [List.length_cons] at within
    obtain rfl | more := Nat.eq_zero_or_pos count
    · exact here
    · exact below count more (by omega)

section Search

variable (tree : FileTree) (settings : Settings) (excludes : List Glob)

/-- What a search finds at a name in a directory. -/
def filesAt (depth : Nat) (here : Location) (above : List Location)
    (printed relative name : String) : List String :=
  if leftOut excludes (Path.join printed name) (Path.join relative name) then []
  else
    match tree.searched? settings.followLinks (here :: above) (here ++ [name]) with
    | some (_, .file _) =>
        if settings.allowsPath (Path.join printed name) then [Path.join printed name] else []
    | some (location, .directory) =>
        tree.filesBelow settings excludes depth (location :: here :: above)
          (Path.join printed name) (Path.join relative name)
    | _ => []

theorem filesBelow_succ (depth : Nat) (here : Location) (above : List Location)
    (printed relative : String) :
    tree.filesBelow settings excludes (depth + 1) (here :: above) printed relative =
      (tree.names here).flatMap
        (tree.filesAt settings excludes depth here above printed relative) := rfl

variable {tree settings excludes}

/-- A path is found at an entry that is not left out: the entry is a file with an allowed extension,
or the path is found below the directory it leads to. -/
theorem mem_filesAt_iff {depth : Nat} {here : Location} {above : List Location}
    {printed relative name path : String} :
    path ∈ tree.filesAt settings excludes depth here above printed relative name ↔
      leftOut excludes (Path.join printed name) (Path.join relative name) = false ∧
        ((∃ found content,
            tree.Leads settings.followLinks (here :: above) name found (.file content) ∧
              settings.allowsPath path ∧ path = Path.join printed name) ∨
          ∃ found, tree.Leads settings.followLinks (here :: above) name found .directory ∧
            path ∈ tree.filesBelow settings excludes depth (found :: here :: above)
              (Path.join printed name) (Path.join relative name)) := by
  unfold filesAt
  simp only [← searched?_eq_some_iff]
  cases left : leftOut excludes (Path.join printed name) (Path.join relative name) with
  | true => simp
  | false =>
      rw [if_neg nofun]
      cases searched : tree.searched? settings.followLinks (here :: above) (here ++ [name]) with
      | none => simp
      | some found =>
          obtain ⟨location, entry⟩ := found
          cases entry with
          | link target => simp
          | directory => simp
          | file content =>
              by_cases allowed : settings.allowsPath (Path.join printed name)
              · simp only [allowed, if_true, List.mem_singleton, Option.some.injEq, Prod.mk.injEq,
                  Entry.file.injEq, reduceCtorEq, and_false, false_and, exists_false, or_false,
                  true_and]
                constructor
                · rintro rfl
                  exact ⟨location, content, ⟨rfl, rfl⟩, allowed, rfl⟩
                · rintro ⟨_, _, -, -, same⟩
                  exact same
              · simp only [allowed, Bool.false_eq_true, if_false, List.not_mem_nil,
                  Option.some.injEq, Prod.mk.injEq, reduceCtorEq, and_false, false_and,
                  exists_false, or_false, true_and, false_iff]
                rintro ⟨_, _, -, permitted, rfl⟩
                exact allowed permitted

/-- A search finds the files to which walks lead on which nothing is left out. -/
theorem mem_filesBelow_iff {depth : Nat} {here : Location} {above : List Location}
    {printed relative path : String} :
    path ∈ tree.filesBelow settings excludes depth (here :: above) printed relative ↔
      ∃ names, names.length ≤ depth ∧ tree.Walk settings.followLinks (here :: above) names ∧
        Kept excludes printed relative names ∧ settings.allowsPath path ∧
        path = Path.joinAll printed names := by
  induction depth generalizing here above printed relative with
  | zero =>
      constructor
      · intro found
        simp [filesBelow] at found
      · rintro ⟨names, short, walk, -⟩
        exact (walk.ne_nil (List.length_eq_zero_iff.mp (Nat.le_zero.mp short))).elim
  | succ depth ih =>
      rw [filesBelow_succ, List.mem_flatMap]
      constructor
      · rintro ⟨name, -, found⟩
        obtain ⟨here, ⟨_, _, leads, allowed, rfl⟩ | ⟨_, leads, below⟩⟩ := mem_filesAt_iff.mp found
        · exact ⟨[name], by simp, .file leads, kept_cons_iff.mpr ⟨here, kept_nil _ _ _⟩, allowed,
            rfl⟩
        · obtain ⟨names, short, walk, kept, allowed, rfl⟩ := ih.mp below
          exact ⟨name :: names, by simpa using short, .directory leads walk,
            kept_cons_iff.mpr ⟨here, kept⟩, allowed, rfl⟩
      · rintro ⟨names, short, walk, kept, allowed, rfl⟩
        cases walk with
        | file leads =>
            obtain ⟨here, -⟩ := kept_cons_iff.mp kept
            exact ⟨_, leads.mem_names, mem_filesAt_iff.mpr ⟨here, .inl ⟨_, _, leads, allowed, rfl⟩⟩⟩
        | directory leads below =>
            obtain ⟨here, kept⟩ := kept_cons_iff.mp kept
            rw [List.length_cons, Nat.add_le_add_iff_right] at short
            exact ⟨_, leads.mem_names, mem_filesAt_iff.mpr
              ⟨here, .inr ⟨_, leads, ih.mpr ⟨_, short, below, kept, allowed, rfl⟩⟩⟩⟩

/-- Every path found at an entry is the printed path joined with the names of a walk through that
entry. -/
theorem exists_names_of_mem_filesAt (proper : tree.Proper) {depth : Nat} {here : Location}
    {above : List Location} {printed relative name path : String}
    (listed : name ∈ tree.names here)
    (found : path ∈ tree.filesAt settings excludes depth here above printed relative name) :
    ∃ names, (∀ other ∈ name :: names, IsName other) ∧
      path = Path.joinAll printed (name :: names) := by
  have first := isName_of_mem_names proper listed
  obtain ⟨-, ⟨_, _, -, -, rfl⟩ | ⟨_, -, below⟩⟩ := mem_filesAt_iff.mp found
  · exact ⟨[], by simpa using first, rfl⟩
  · obtain ⟨names, -, walk, -, -, rfl⟩ := mem_filesBelow_iff.mp below
    exact ⟨names, List.forall_mem_cons.mpr ⟨first, walk.isName proper⟩, rfl⟩

/-- No file is found twice: the paths of files under different names start differently. -/
theorem nodup_filesBelow (proper : tree.Proper) (depth : Nat) (path : List Location)
    (printed relative : String) :
    (tree.filesBelow settings excludes depth path printed relative).Nodup := by
  induction depth generalizing path printed relative with
  | zero => simp [filesBelow]
  | succ depth ih =>
      cases path with
      | nil => simp [filesBelow]
      | cons here above =>
          rw [filesBelow_succ, List.nodup_flatMap]
          constructor
          · intro name _
            unfold filesAt
            repeat' split
            all_goals first
              | exact List.nodup_nil
              | exact List.nodup_singleton _
              | exact ih _ _ _
          · refine (nodup_names proper here).imp_of_mem ?_
            intro first second here there different path found alike
            obtain ⟨names, isName, rfl⟩ := exists_names_of_mem_filesAt proper here found
            obtain ⟨others, areNames, same⟩ := exists_names_of_mem_filesAt proper there alike
            exact different (Path.head_eq_of_joinAll_eq isName areNames same)

end Search

/-- What makes the file to which names lead one that a scan looks at. -/
structure Selects (tree : FileTree) (settings : Settings) (excludes : List Glob) (root : String)
    (location : Location) (names : List String) : Prop where
  walk : tree.Walk settings.followLinks [location] names
  allowed : ∃ name extension, names.getLast? = some name ∧
    Path.extensionOfName? name = some extension ∧ settings.allows extension
  kept : ∀ count, 1 ≤ count → count ≤ names.length → ∀ glob ∈ excludes,
    ¬ glob.covers (textOf (names.take count)) ∧
      ¬ glob.covers (Path.joinAll root (names.take count))

/-- An entry is kept exactly when no pattern covers it, neither relative to the root nor as it is
printed. -/
theorem leftOut_eq_false_iff {excludes : List Glob} {printed relative : String} :
    leftOut excludes printed relative = false ↔
      ∀ glob ∈ excludes, ¬ glob.covers relative ∧ ¬ glob.covers printed := by
  simp [leftOut]

/-- A walk is kept exactly when no pattern covers any of its directories or its end, in either
spelling. -/
theorem kept_iff {excludes : List Glob} {root : String} {names : List String}
    (areNames : ∀ name ∈ names, IsName name) :
    Kept excludes root "" names ↔
      ∀ count, 1 ≤ count → count ≤ names.length → ∀ glob ∈ excludes,
        ¬ glob.covers (textOf (names.take count)) ∧
          ¬ glob.covers (Path.joinAll root (names.take count)) := by
  have relative (count : Nat) : Path.joinAll "" (names.take count) = textOf (names.take count) :=
    Path.joinAll_empty fun name member => areNames name (List.mem_of_mem_take member)
  simp only [Kept, relative, leftOut_eq_false_iff]

/-- Whether a path is allowed depends on the extension of its last name alone. -/
theorem allowsPath_joinAll_iff {settings : Settings} {root : String} (nonempty : root ≠ "")
    {names : List String} (walked : names ≠ []) (areNames : ∀ name ∈ names, IsName name) :
    settings.allowsPath (Path.joinAll root names) ↔
      ∃ name extension, names.getLast? = some name ∧
        Path.extensionOfName? name = some extension ∧ settings.allows extension := by
  obtain ⟨earlier, last, rfl⟩ := (List.eq_nil_or_concat' names).resolve_left walked
  have path : Path.joinAll root (earlier ++ [last]) =
      Path.join (Path.joinAll root earlier) last := by
    simp [Path.joinAll]
  have isName := areNames last (by simp)
  have extension := Path.extension?_join (Path.joinAll_ne_empty nonempty earlier) isName
  rw [path, Settings.allowsPath, extension, Option.any_eq_true]
  simp

/-- Where links are not followed an entry leads to itself, and a link leads nowhere. -/
theorem leads_iff_of_unfollowed {tree : FileTree} {here : Location} {above : List Location}
    {name : String} {found : Location} {entry : Entry} :
    tree.Leads false (here :: above) name found entry ↔
      found = here ++ [name] ∧ tree.lookup found = some entry ∧ ∀ target, entry ≠ .link target := by
  constructor
  · rintro (⟨stands, solid⟩ | ⟨follows, _⟩)
    · exact ⟨rfl, stands, solid⟩
    · cases follows
  · rintro ⟨rfl, stands, solid⟩
    exact .entry stands solid

/-- Without links, a walk leads to a file just if directories stand on the way to it. -/
theorem walk_iff_of_unfollowed {tree : FileTree} {here : Location} {above : List Location}
    {names : List String} :
    tree.Walk false (here :: above) names ↔
      (∀ count, 1 ≤ count → count < names.length →
        tree.lookup (here ++ names.take count) = some .directory) ∧
      names ≠ [] ∧ ∃ content, tree.lookup (here ++ names) = some (.file content) := by
  induction names generalizing here above with
  | nil =>
      constructor
      · intro walk
        exact (walk.ne_nil rfl).elim
      · rintro ⟨-, walked, -⟩
        exact (walked rfl).elim
  | cons name names ih =>
      constructor
      · intro walk
        cases walk with
        | file leads =>
            obtain ⟨rfl, stands, -⟩ := leads_iff_of_unfollowed.mp leads
            refine ⟨fun count positive within => ?_, by simp, _, stands⟩
            rw [List.length_singleton] at within
            omega
        | directory leads below =>
            obtain ⟨rfl, stands, -⟩ := leads_iff_of_unfollowed.mp leads
            obtain ⟨directories, walked, content, file⟩ := ih.mp below
            rw [List.append_assoc, List.singleton_append] at file
            refine ⟨fun count positive within => ?_, by simp, content, file⟩
            obtain ⟨count, rfl⟩ := Nat.exists_eq_add_of_le' positive
            rw [List.length_cons] at within
            obtain rfl | more := Nat.eq_zero_or_pos count
            · simpa using stands
            · simpa using directories count more (by omega)
      · rintro ⟨directories, -, content, file⟩
        by_cases last : names = []
        · subst last
          exact .file (.entry file (by simp))
        · have length := List.length_pos_iff.mpr last
          have stands := directories 1 le_rfl (by rw [List.length_cons]; omega)
          rw [List.take_succ_cons, List.take_zero] at stands
          refine .directory (.entry stands (by simp)) (ih.mpr
            ⟨fun count positive within => ?_, last, content, by simpa using file⟩)
          simpa using directories (count + 1) (by omega) (by simpa using within)

/-- The empty path leads nowhere. -/
theorem ne_empty_of_find {tree : FileTree} {root : String} {found : Location × Entry}
    (leads : tree.find root = .ok found) : root ≠ "" := by
  rintro rfl
  simp [find, locate, Step.ofPath?] at leads

/-- Below a root that is a directory just the files that its walks select are found. -/
theorem mem_filesBelow_root_iff {tree : FileTree} (proper : tree.Proper) {settings : Settings}
    {excludes : List Glob} {root : String} {location : Location}
    (leads : tree.find root = .ok (location, .directory)) {path : String} :
    path ∈ tree.filesBelow settings excludes tree.searchDepth [location] root "" ↔
      ∃ names, path = Path.joinAll root names ∧
        tree.Selects settings excludes root location names := by
  have nonempty := ne_empty_of_find leads
  rw [mem_filesBelow_iff]
  constructor
  · rintro ⟨names, -, walk, kept, allowed, rfl⟩
    have areNames := walk.isName proper
    exact ⟨names, rfl, walk, (allowsPath_joinAll_iff nonempty walk.ne_nil areNames).mp allowed,
      (kept_iff areNames).mp kept⟩
  · rintro ⟨names, rfl, walk, allowed, kept⟩
    have areNames := walk.isName proper
    exact ⟨names, walk.length_le (find_eq_ok_iff.mp leads).2, walk, (kept_iff areNames).mpr kept,
      (allowsPath_joinAll_iff nonempty walk.ne_nil areNames).mpr allowed, rfl⟩

/-- Discovery spelled out for the three things a root can lead to: a file, a directory, or neither.
-/
theorem discover_eq {tree : FileTree} {settings : Settings} {excludes : List Glob}
    (compiled : settings.excludeGlobs = .ok excludes) (root : String) :
    tree.discover settings root = .ok (match tree.find root with
      | .ok (_, .file _) =>
          if settings.allowsPath root && !leftOut excludes root "" then [root] else []
      | .ok (location, .directory) =>
          (tree.filesBelow settings excludes tree.searchDepth [location] root "").mergeSort
            fun left right => left ≤ right
      | _ => []) := by
  rw [discover, compiled]
  change (match tree.find root with | .ok (_, .file _) => _ | .ok (_, .directory) => _ | _ => _) = _
  split <;> rfl

/-- A scan of a directory looks at the one file that a search below it finds. -/
theorem discover_of_filesBelow {tree : FileTree} {settings : Settings} {excludes : List Glob}
    {root : String} {location : Location} {path : String}
    (compiled : settings.excludeGlobs = .ok excludes)
    (leads : tree.find root = .ok (location, .directory))
    (below : tree.filesBelow settings excludes tree.searchDepth [location] root "" = [path]) :
    tree.discover settings root = .ok [path] := by
  rw [discover_eq compiled, leads]
  dsimp only
  rw [below, List.mergeSort_singleton]

/-- A scan of a directory looks at the files that its settings select, at each of them once. A scan
of a file looks at it if its extension is allowed and it is not left out, and a scan of nothing
looks at nothing. -/
theorem discover_selects {tree : FileTree} (proper : tree.Proper) {settings : Settings}
    {excludes : List Glob} (compiled : settings.excludeGlobs = .ok excludes) (root : String) :
    (∀ location, tree.find root = .ok (location, .directory) →
      ∃ files, tree.discover settings root = .ok files ∧ files.Nodup ∧
        (∀ path, path ∈ files ↔ ∃ names, path = Path.joinAll root names ∧
          tree.Selects settings excludes root location names) ∧
        (settings.followLinks = false → ∀ names, tree.Walk settings.followLinks [location] names ↔
          (∀ count, 1 ≤ count → count < names.length →
            tree.lookup (location ++ names.take count) = some .directory) ∧
          names ≠ [] ∧ ∃ content, tree.lookup (location ++ names) = some (.file content))) ∧
    (∀ location content, tree.find root = .ok (location, .file content) →
      ∃ files, tree.discover settings root = .ok files ∧ (files = [root] ∨ files = []) ∧
        (files = [root] ↔
          (∃ extension, Path.extension? root = some extension ∧ settings.allows extension) ∧
            ∀ glob ∈ excludes, ¬ glob.covers "" ∧ ¬ glob.covers root)) ∧
    (∀ cause, tree.find root = .error cause → tree.discover settings root = .ok []) := by
  refine ⟨fun location leads => ?_, fun location content leads => ?_, fun cause leads => ?_⟩
  · have sorted := List.mergeSort_perm
      (tree.filesBelow settings excludes tree.searchDepth [location] root "")
      fun left right => left ≤ right
    refine ⟨_, by rw [discover_eq compiled, leads], ?_, fun path => ?_, fun unfollowed names => ?_⟩
    · exact sorted.nodup_iff.mpr (nodup_filesBelow proper _ _ _ _)
    · rw [sorted.mem_iff, mem_filesBelow_root_iff proper leads]
    · rw [unfollowed, walk_iff_of_unfollowed]
  · refine ⟨_, by rw [discover_eq compiled, leads], ?_, ?_⟩
    · dsimp only
      split <;> simp
    · have allowed : settings.allowsPath root ↔
          ∃ extension, Path.extension? root = some extension ∧ settings.allows extension := by
        rw [Settings.allowsPath, Option.any_eq_true]
      rw [← allowed, ← leftOut_eq_false_iff]
      dsimp only
      split <;> simp_all
  · rw [discover_eq compiled, leads]

/-- A link to a file counts as that file, next to one to the directory in which the search is. -/
theorem discover_selects_link :
    ∃ tree : FileTree, ∃ settings : Settings, ∃ excludes,
      tree = ⟨[(["s"], .directory), (["s", "a.py"], .file [0x23]), (["s", "l.py"], .link "a.py"),
        (["s", "out"], .directory), (["s", "up"], .link "../s")], []⟩ ∧
      settings = { Settings.default with excludes := ["out"], followLinks := true } ∧
      tree.Proper ∧ settings.excludeGlobs = .ok excludes ∧
      tree.find "s" = .ok (["s"], .directory) ∧
      ∃ files, tree.discover settings "s" = .ok files ∧ files.Nodup ∧ "s/l.py" ∈ files := by
  refine ⟨_, _, [⟨[.literal 'o', .literal 'u', .literal 't']⟩], rfl, rfl, ?_⟩
  have proper : FileTree.Proper ⟨[(["s"], .directory), (["s", "a.py"], .file [0x23]),
      (["s", "l.py"], .link "a.py"), (["s", "out"], .directory), (["s", "up"], .link "../s")],
      []⟩ := by
    decide +kernel
  have compiled : Settings.excludeGlobs
      { Settings.default with excludes := ["out"], followLinks := true } =
        .ok [⟨[.literal 'o', .literal 'u', .literal 't']⟩] := by rfl
  have leads : FileTree.find ⟨[(["s"], .directory), (["s", "a.py"], .file [0x23]),
      (["s", "l.py"], .link "a.py"), (["s", "out"], .directory), (["s", "up"], .link "../s")],
      []⟩ "s" =
        .ok (["s"], .directory) := by
    have steps : Step.ofPath? "s" = some [.enter "s"] := by decide +kernel
    simp [find, locate, steps, follow, lookup]
  refine ⟨proper, compiled, leads, ?_⟩
  obtain ⟨files, found, nodup, selected, -⟩ :=
    (discover_selects proper compiled "s").1 ["s"] leads
  refine ⟨files, found, nodup, (selected _).mpr ⟨["l.py"], by decide +kernel, ?_, ?_, ?_⟩⟩
  · have steps : Step.ofPath? "a.py" = some [.enter "a.py"] := by decide +kernel
    refine .file (@Leads.link _ _ _ _ _ _ ["s", "a.py"] (.file [0x23]) rfl rfl ?_ rfl ?_)
    · have beside : Step.start ["s"] "a.py" = ["s"] := by decide +kernel
      simp [linkLimit, steps, beside, follow, lookup, List.lookup_cons]
    · intro same
      cases same
  · exact ⟨"l.py", "py", rfl, by decide, by decide⟩
  · intro count positive within glob member
    rw [List.mem_singleton] at member
    obtain rfl : count = 1 := by
      rw [List.length_singleton] at within
      omega
    subst member
    decide +kernel

end MarkerReport.FileTree
