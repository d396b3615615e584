import MarkerReport.Proofs.Command.Merging
import MarkerReport.Proofs.Scan.Selection

/-! # Extensions that files can have

The extension of a file is what follows the last dot of its name, and the settings may list any text
as an extension. So a file whose name ends in a listed extension is looked at if there is no dot in
the extension, leading ones apart. If there is one, then the file is looked at just if the part of
the extension behind its last dot is listed too (`MarkerReport.FileTree.discover_extension`):
`tar.gz` alone leads to no file (`MarkerReport.FileTree.discover_extension_fails`).
-/

namespace MarkerReport.Path

/-- The extension of a name is what follows its last dot. -/
theorem extensionOfName?_of_lastDot {name : String} {front core : List Char} (named : front ≠ [])
    (split : name.toList = front ++ '.' :: core) (undotted : '.' ∉ core) :
    extensionOfName? name = some (String.ofList core) := by
  have reversed : name.toList.reverse = core.reverse ++ '.' :: front.reverse := by
    rw [split, List.reverse_append, List.reverse_cons, List.append_assoc, List.singleton_append]
  have passed : ∀ c ∈ core.reverse, (c != '.') = true := by
    intro c member
    rw [bne_iff_ne]
    rintro rfl
    exact undotted (List.mem_reverse.mp member)
  have stops : ∀ c, ('.' :: front.reverse).head? = some c → (c != '.') = false := by
    intro c first
    obtain rfl := Option.some.inj first
    rfl
  unfold extensionOfName?
  simp only [reversed]
  rw [Text.takeWhile_append_of_stops passed stops,
    Text.dropWhile_append_of_stops passed stops, List.drop_one, List.tail_cons,
    List.reverse_reverse, if_pos (by simp), if_neg (by simpa using named)]

/-- An extension without a slash makes a name of its own behind a dot. -/
theorem isName_dotted {extension : String} (unbroken : '/' ∉ extension.toList) :
    IsName ("x." ++ extension) where
  nonempty empty := by simpa using congrArg String.toList empty
  unbroken := by
    rw [String.toList_append, List.mem_append]
    rintro (stem | inside)
    · exact absurd stem (by decide)
    · exact unbroken inside
  not_here dot := by simpa using congrArg String.toList dot
  not_above dots := by simpa using congrArg String.toList dots

end MarkerReport.Path

namespace MarkerReport.FileTree

section

variable {tree : FileTree} {settings : Settings} {root : String} {location : Location}
  {name : String} {content : List UInt8} (unfiltered : settings.excludes = [])
  (leads : tree.find root = .ok (location, .directory))
  (stands : tree.lookup (location ++ [name]) = some (.file content))

include unfiltered leads stands

/-- Where nothing is left out, a file in the directory itself is looked at just if its extension is
allowed. -/
theorem mem_discover_iff :
    ∃ files, tree.discover settings root = .ok files ∧
      (Path.join root name ∈ files ↔ settings.allowsPath (Path.join root name)) := by
  have compiled : settings.excludeGlobs = .ok [] := by
    rw [Settings.excludeGlobs, unfiltered]
    rfl
  have sorted := List.mergeSort_perm
    (tree.filesBelow settings [] tree.searchDepth [location] root "") fun left right => left ≤ right
  refine ⟨_, by rw [discover_eq compiled, leads], ?_⟩
  rw [sorted.mem_iff, mem_filesBelow_iff]
  refine ⟨fun ⟨_, _, _, _, allowed, _⟩ => allowed, fun allowed => ?_⟩
  have walk : tree.Walk settings.followLinks [location] [name] := .file (.entry stands (by simp))
  have short := walk.length_le (find_eq_ok_iff.mp leads).2
  exact ⟨[name], short, walk, kept_cons_iff.mpr ⟨rfl, kept_nil _ _ _⟩, allowed, rfl⟩

/-- A file whose name has a dot is found exactly when what stands behind its last dot is one of the
extensions, leading dots apart. -/
theorem mem_discover_iff_of_lastDot (isName : IsName name) {front core : List Char}
    (named : front ≠ []) (split : name.toList = front ++ '.' :: core) (undotted : '.' ∉ core) :
    ∃ files, tree.discover settings root = .ok files ∧
      (Path.join root name ∈ files ↔
        ∃ other ∈ settings.extensions, (Language.trimDots other).toList = core) := by
  obtain ⟨files, found, member⟩ := mem_discover_iff unfiltered leads stands
  refine ⟨files, found, member.trans ?_⟩
  have trimmed : (Language.trimDots (String.ofList core)).toList = core := by
    apply @Language.toList_trimDots_of_dots _ 0 _ String.toList_ofList
    intro first
    exact undotted (List.mem_of_mem_head? first)
  rw [Settings.allowsPath, Path.extension?_join (ne_empty_of_find leads) isName,
    Path.extensionOfName?_of_lastDot named split undotted, Option.any_some, Settings.allows_iff]
  simp only [← String.toList_inj, trimmed]

end

/-- A file named by a listed extension is looked at unless there is a dot in the extension, leading
ones apart. If there is one, it is looked at just if what follows the last dot is listed. -/
theorem discover_extension {tree : FileTree} {settings : Settings}
    (unfiltered : settings.excludes = []) {extension : String}
    (listed : extension ∈ settings.extensions) (unbroken : '/' ∉ extension.toList)
    {root : String} {location : Location} (leads : tree.find root = .ok (location, .directory))
    {content : List UInt8}
    (stands : tree.lookup (location ++ ["x." ++ Language.trimDots extension]) =
      some (.file content)) :
    ∃ files, tree.discover settings root = .ok files ∧
      ('.' ∉ (Language.trimDots extension).toList →
        Path.join root ("x." ++ Language.trimDots extension) ∈ files) ∧
      ∀ front core, (Language.trimDots extension).toList = front ++ '.' :: core → '.' ∉ core →
        (Path.join root ("x." ++ Language.trimDots extension) ∈ files ↔
          ∃ other ∈ settings.extensions, (Language.trimDots other).toList = core) := by
  have isName : IsName ("x." ++ Language.trimDots extension) := by
    apply Path.isName_dotted
    rw [Language.toList_trimDots]
    exact fun inside => unbroken ((List.dropWhile_sublist _).subset inside)
  obtain ⟨files, found, -⟩ := mem_discover_iff unfiltered leads stands
  have looked {front core : List Char} (named : front ≠ [])
      (split : ("x." ++ Language.trimDots extension).toList = front ++ '.' :: core)
      (undotted : '.' ∉ core) :
      Path.join root ("x." ++ Language.trimDots extension) ∈ files ↔
        ∃ other ∈ settings.extensions, (Language.trimDots other).toList = core := by
    obtain ⟨others, alike, member⟩ :=
      mem_discover_iff_of_lastDot unfiltered leads stands isName named split undotted
    rwa [← Except.ok.inj (found.symm.trans alike)] at member
  refine ⟨files, found, fun undotted => ?_, fun front core dotted undotted => ?_⟩
  · apply (looked (List.cons_ne_nil 'x' []) String.toList_append undotted).mpr
    exact ⟨extension, listed, rfl⟩
  · apply looked (List.cons_ne_nil 'x' ('.' :: front)) _ undotted
    rw [String.toList_append, dotted]
    rfl

/-- One of two dotted extensions leads to the other one's file, whatever dots they start with. -/
theorem discover_extension_archive :
    ∃ tree : FileTree, ∃ settings : Settings,
      tree = ⟨[(["s"], .directory), (["s", "x.tar.gz"], .file [0x23])], []⟩ ∧
      settings = { Settings.default with extensions := ["..tar.gz", ".gz"] } ∧
      settings.validate = .ok () ∧ settings.excludes = [] ∧
      tree.find "s" = .ok (["s"], .directory) ∧
      tree.lookup ["s", "x.tar.gz"] = some (.file [0x23]) ∧
      ∃ files, tree.discover settings "s" = .ok files ∧ "s/x.tar.gz" ∈ files := by
  refine ⟨_, _, rfl, rfl, by decide +kernel, rfl, ?_⟩
  have leads : FileTree.find ⟨[(["s"], .directory), (["s", "x.tar.gz"], .file [0x23])], []⟩ "s" =
      .ok (["s"], .directory) := by
    have steps : Step.ofPath? "s" = some [.enter "s"] := by decide +kernel
    simp [find, locate, steps, follow, lookup]
  refine ⟨leads, rfl, ?_⟩
  have name : "x." ++ Language.trimDots "..tar.gz" = "x.tar.gz" := by decide +kernel
  obtain ⟨files, found, -, looked⟩ := @discover_extension _
    { Settings.default with extensions := ["..tar.gz", ".gz"] } rfl "..tar.gz" List.mem_cons_self
    (by decide +kernel) "s" ["s"] leads [0x23] (by rw [name]; rfl)
  refine ⟨files, found, ?_⟩
  have path : Path.join "s" ("x." ++ Language.trimDots "..tar.gz") = "s/x.tar.gz" := by
    decide +kernel
  rw [path] at looked
  apply (looked "tar".toList "gz".toList (by decide +kernel) (by decide +kernel)).mpr
  exact ⟨".gz", by simp, by decide +kernel⟩

/-- A file that is named by the only extension is not looked at. -/
theorem discover_extension_fails :
    ∃ settings : Settings, settings = { Settings.default with extensions := ["tar.gz"] } ∧
      settings.validate = .ok () ∧ settings.excludes = [] ∧
      FileTree.find ⟨[(["x.tar.gz"], .file [0x23])], []⟩ "." = .ok ([], .directory) ∧
      FileTree.lookup ⟨[(["x.tar.gz"], .file [0x23])], []⟩ ["x." ++ Language.trimDots "tar.gz"] =
        some (.file [0x23]) ∧
      ∃ files, FileTree.discover ⟨[(["x.tar.gz"], .file [0x23])], []⟩ settings "." = .ok files ∧
        Path.join "." ("x." ++ Language.trimDots "tar.gz") ∉ files := by
  refine ⟨_, rfl, by decide +kernel, rfl, ?_⟩
  have leads : FileTree.find ⟨[(["x.tar.gz"], .file [0x23])], []⟩ "." = .ok ([], .directory) := by
    have steps : Step.ofPath? "." = some [.stay] := by decide +kernel
    simp [find, locate, steps, follow, lookup]
  have name : "x." ++ Language.trimDots "tar.gz" = "x.tar.gz" := by decide +kernel
  rw [name]
  refine ⟨leads, rfl, ?_⟩
  obtain ⟨files, found, member⟩ := @mem_discover_iff _
    { Settings.default with extensions := ["tar.gz"] } "." [] "x.tar.gz" [0x23] rfl leads rfl
  refine ⟨files, found, fun looked => ?_⟩
  exact absurd (member.mp looked) (by decide +kernel)

end MarkerReport.FileTree
