import Mathlib.Data.List.Nodup
import Mathlib.Data.List.TakeWhile
import MarkerReport.Files.Tree
import MarkerReport.Path

/-! # Names of files and the paths made of them

A name is a single component of a path. A path that is joined from a directory and names can be
taken apart again: it tells the first of the names (`MarkerReport.Path.head_eq_of_joinAll_eq`), and
its extension is the extension of the last one (`MarkerReport.Path.extension?_join`).
-/

namespace MarkerReport

/-- Whether a text can be the name of an entry of a directory. -/
structure IsName (name : String) : Prop where
  nonempty : name ≠ ""
  unbroken : '/' ∉ name.toList
  not_here : name ≠ "."
  not_above : name ≠ ".."

instance (name : String) : Decidable (IsName name) :=
  decidable_of_iff (name ≠ "" ∧ '/' ∉ name.toList ∧ name ≠ "." ∧ name ≠ "..")
    ⟨fun ⟨nonempty, unbroken, not_here, not_above⟩ => ⟨nonempty, unbroken, not_here, not_above⟩,
      fun proper => ⟨proper.nonempty, proper.unbroken, proper.not_here, proper.not_above⟩⟩

namespace Path

/-- The path of what names lead to from a directory, one after the other. -/
def joinAll (directory : String) (names : List String) : String := names.foldl join directory

@[simp] theorem joinAll_cons (directory name : String) (names : List String) :
    joinAll directory (name :: names) = joinAll (join directory name) names := rfl

/-- What stands between a directory and the name of an entry. -/
def separator (directory : String) : String :=
  if directory.isEmpty || directory.endsWith "/" then "" else "/"

/-- A name is joined to a directory with a separator, where one is needed. -/
theorem join_eq (directory name : String) :
    join directory name = directory ++ separator directory ++ name := by
  unfold join separator
  split <;> simp

/-- Whether a path ends in a separator, told by its last character. -/
theorem endsWith_slash_iff (text : String) :
    text.endsWith "/" ↔ text.toList.getLast? = some '/' := by
  rw [String.endsWith, String.Slice.endsWith_string_iff, String.copy_toSlice,
    List.getLast?_eq_some_iff]
  constructor
  · rintro ⟨front, whole⟩
    exact ⟨front, whole.symm⟩
  · rintro ⟨front, whole⟩
    exact ⟨front, whole.symm⟩

/-- Behind a name a separator is needed. -/
theorem separator_append {name : String} (proper : IsName name) (before : String) :
    separator (before ++ name) = "/" := by
  have letters : name.toList ≠ [] :=
    fun empty => proper.nonempty (String.toList_eq_nil_iff.mp empty)
  unfold separator
  rw [if_neg]
  simp only [Bool.or_eq_true, endsWith_slash_iff, String.toList_append,
    List.getLast?_append_of_ne_nil _ letters, not_or]
  refine ⟨?_, fun slash => proper.unbroken (List.mem_of_getLast? slash)⟩
  simp [proper.nonempty]

/-- A path that starts with a directory is not empty. -/
theorem joinAll_ne_empty {directory : String} (nonempty : directory ≠ "") (names : List String) :
    joinAll directory names ≠ "" := by
  induction names generalizing directory with
  | nil => exact nonempty
  | cons name names ih =>
      refine ih fun empty => nonempty ?_
      rw [join_eq, String.append_assoc, String.append_eq_empty_iff] at empty
      exact empty.1

/-- A joined path is the directory and behind it the names with separators between them. -/
theorem joinAll_eq (directory name : String) (names : List String)
    (proper : ∀ other ∈ name :: names, IsName other) :
    joinAll directory (name :: names) =
      directory ++ separator directory ++ FileTree.textOf (name :: names) := by
  induction names generalizing directory name with
  | nil => simp [joinAll, join_eq, FileTree.textOf]
  | cons second names ih =>
      rw [joinAll_cons, ih _ _ fun other member => proper other (List.mem_cons_of_mem _ member),
        join_eq, separator_append (proper name (List.mem_cons_self ..)), FileTree.textOf,
        FileTree.textOf, String.intercalate_cons_cons]
      simp only [String.append_assoc]

/-- Seen from the directory itself, a path is its names with separators between them. -/
theorem joinAll_empty {names : List String} (proper : ∀ name ∈ names, IsName name) :
    joinAll "" names = FileTree.textOf names := by
  cases names with
  | nil => rfl
  | cons name names =>
      rw [joinAll_eq "" name names proper]
      simp [separator]

/-- The first name is what stands before the first separator. -/
theorem takeWhile_textOf {name : String} (proper : IsName name) (names : List String) :
    (FileTree.textOf (name :: names)).toList.takeWhile (· != '/') = name.toList := by
  have kept : ∀ c ∈ name.toList, (c != '/') = true := by
    intro c member
    simp only [bne_iff_ne]
    rintro rfl
    exact proper.unbroken member
  cases names with
  | nil => simpa [FileTree.textOf] using kept
  | cons second names =>
      simp only [FileTree.textOf, String.intercalate_cons_cons, String.toList_append,
        List.append_assoc, List.takeWhile_append_of_pos kept]
      simp

/-- A joined path tells the first name behind the directory. -/
theorem head_eq_of_joinAll_eq {directory first second : String} {later others : List String}
    (proper : ∀ name ∈ first :: later, IsName name) (alike : ∀ name ∈ second :: others, IsName name)
    (same : joinAll directory (first :: later) = joinAll directory (second :: others)) :
    first = second := by
  rw [joinAll_eq directory first later proper, joinAll_eq directory second others alike] at same
  have texts : FileTree.textOf (first :: later) = FileTree.textOf (second :: others) := by
    rw [← String.toList_inj] at same ⊢
    simpa [String.toList_append] using same
  rw [← String.toList_inj, ← takeWhile_textOf (proper first (by simp)) later, texts,
    takeWhile_textOf (alike second (by simp))]

/-- Every text has a piece, if an empty one. -/
theorem pieces_ne_nil (text : List Char) : pieces text ≠ [] := by
  cases text with
  | nil => simp [pieces]
  | cons c rest =>
      rw [pieces]
      split
      · simp
      · split <;> simp

/-- A separator cuts the pieces before it from those behind it. -/
theorem pieces_append_slash (before after : List Char) :
    pieces (before ++ '/' :: after) = pieces before ++ pieces after := by
  induction before with
  | nil => simp [pieces]
  | cons c before ih =>
      rw [List.cons_append, pieces, pieces, ih]
      by_cases slash : c = '/'
      · simp [slash]
      · obtain ⟨piece, later, cut⟩ := List.exists_cons_of_ne_nil (pieces_ne_nil before)
        simp [slash, cut]

/-- A text without separators is its only piece. -/
theorem pieces_of_unbroken {text : List Char} (unbroken : '/' ∉ text) : pieces text = [text] := by
  induction text with
  | nil => rfl
  | cons c rest ih =>
      rw [List.mem_cons, not_or] at unbroken
      rw [pieces, if_neg (Ne.symm unbroken.1), ih unbroken.2]

/-- A name is a component that stands for itself. -/
theorem component?_of_isName {name : String} (proper : IsName name) :
    component? name.toList = some (.name name) := by
  have letters : name.toList ≠ [] :=
    fun empty => proper.nonempty (String.toList_eq_nil_iff.mp empty)
  have here : name.toList ≠ ['.'] := fun dot => proper.not_here (String.toList_inj.mp dot)
  have above : name.toList ≠ ['.', '.'] := fun dots => proper.not_above (String.toList_inj.mp dots)
  simp [component?, letters, here, above]

/-- The last component of a path is the name that it ends with. -/
theorem getLast?_components {path name : String} (proper : IsName name) {before : List Char}
    (ends : path.toList = before ++ '/' :: name.toList) :
    (components path).getLast? = some (.name name) := by
  obtain ⟨first, later, cut⟩ := List.exists_cons_of_ne_nil (pieces_ne_nil before)
  have split : pieces path.toList = first :: (later ++ [name.toList]) := by
    rw [ends, pieces_append_slash, pieces_of_unbroken proper.unbroken, cut, List.cons_append]
  unfold components
  simp only [split, List.filterMap_append, List.filterMap_cons, component?_of_isName proper,
    List.filterMap_nil]
  split
  · rw [if_neg (by simp)]
    simp [List.getLast?_cons]
  split
  · simp [List.getLast?_cons]
  · simp [List.getLast?_append]

/-- The extension of a joined path is the extension of its last name. -/
theorem extension?_join {directory name : String} (nonempty : directory ≠ "")
    (proper : IsName name) : extension? (join directory name) = extensionOfName? name := by
  have ends : ∃ before, (join directory name).toList = before ++ '/' :: name.toList := by
    rw [join_eq, separator]
    split
    · rename_i slash
      have slash : directory.endsWith "/" := by simpa [nonempty] using slash
      obtain ⟨before, whole⟩ := List.getLast?_eq_some_iff.mp ((endsWith_slash_iff _).mp slash)
      exact ⟨before, by simp [whole]⟩
    · exact ⟨directory.toList, by simp⟩
  obtain ⟨before, ends⟩ := ends
  rw [extension?, fileName?, getLast?_components proper ends]
  rfl

end Path

namespace FileTree

/-- Whether every entry of a tree has a location of its own and is reached by names. So it is in
every tree that starts from the empty one and is changed by commands. -/
structure Proper (tree : FileTree) : Prop where
  nodup : (tree.entries.map Prod.fst).Nodup
  named : ∀ location ∈ tree.entries.map Prod.fst, ∀ name ∈ location, IsName name

instance (tree : FileTree) : Decidable tree.Proper :=
  decidable_of_iff ((tree.entries.map Prod.fst).Nodup ∧
      ∀ location ∈ tree.entries.map Prod.fst, ∀ name ∈ location, IsName name)
    ⟨fun ⟨nodup, named⟩ => ⟨nodup, named⟩, fun proper => ⟨proper.nodup, proper.named⟩⟩

/-- Below the top, something stands where the tree has an entry. -/
theorem exists_lookup_iff {tree : FileTree} {location : Location} (below : location ≠ []) :
    (∃ entry, tree.lookup location = some entry) ↔ location ∈ tree.entries.map Prod.fst := by
  rw [lookup, if_neg below, ← Option.isSome_iff_exists, List.lookup_isSome_iff, List.mem_map]
  simp only [beq_iff_eq]
  exact exists_congr fun entry => and_congr_right fun _ => eq_comm

/-- A location is listed in its directory under its last name. -/
theorem filterMap_name_eq_some_iff {location directory : Location} {name : String} :
    (if location.dropLast = directory then location.getLast? else none) = some name ↔
      location = directory ++ [name] := by
  constructor
  · intro listed
    split at listed
    · subst directory
      exact (List.dropLast_append_getLast? name listed).symm
    · cases listed
  · rintro rfl
    simp

/-- The names of the entries of a directory are those at which something stands. -/
theorem mem_names_iff {tree : FileTree} {directory : Location} {name : String} :
    name ∈ tree.names directory ↔ ∃ entry, tree.lookup (directory ++ [name]) = some entry := by
  rw [exists_lookup_iff (by simp)]
  simp only [names, List.mem_filterMap, filterMap_name_eq_some_iff, List.mem_map]

/-- No name is listed twice in a directory. -/
theorem nodup_names {tree : FileTree} (proper : tree.Proper) (directory : Location) :
    (tree.names directory).Nodup := by
  have listed : tree.names directory = (tree.entries.map Prod.fst).filterMap fun location =>
      if location.dropLast = directory then location.getLast? else none := by
    rw [names, List.filterMap_map]
    rfl
  rw [listed]
  refine proper.nodup.filterMap fun first second name here there => ?_
  rw [Option.mem_def, filterMap_name_eq_some_iff] at here there
  rw [here, there]

/-- What is listed in a directory is a name. -/
theorem isName_of_mem_names {tree : FileTree} (proper : tree.Proper) {directory : Location}
    {name : String} (member : name ∈ tree.names directory) : IsName name := by
  obtain ⟨entry, stands⟩ := mem_names_iff.mp member
  have listed := (exists_lookup_iff (by simp)).mp ⟨entry, stands⟩
  exact proper.named _ listed name (by simp)

end FileTree

end MarkerReport
