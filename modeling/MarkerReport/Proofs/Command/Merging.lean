import MarkerReport.Command.Layers
import MarkerReport.Proofs.Text.Blanks

/-! # What a command line adds to settings

Keywords and extensions on a command line are added one after the other, each of them only if the
list does not have it by then: keywords are compared up to the case of ASCII letters, extensions up
to leading dots. Both are one operation, which looks at a key and stores a value
(`MarkerReport.Settings.addNew`); what it does in one step and in a run is shown for any key.

So settings keep what they have, get what is new in the order of the command line, and get nothing
twice. Putting the same command line on top once more has no effect but on the glob patterns, which
are added without a look at those that are there
(`MarkerReport.Settings.merge_adds_what_is_new`).
-/

namespace MarkerReport

namespace Language

/-- The texts are the same but for dots at their start. -/
def SameUpToDots (left right : String) : Prop :=
  ∃ core : List Char, core.head? ≠ some '.' ∧
    (∃ count, left.toList = List.replicate count '.' ++ core) ∧
    ∃ count, right.toList = List.replicate count '.' ++ core

/-- An extension is trimmed by dropping its leading dots. -/
theorem toList_trimDots (extension : String) :
    (trimDots extension).toList = extension.toList.dropWhile (· == '.') :=
  String.toList_ofList

/-- An extension is some dots and the trimmed extension. -/
theorem exists_dots_trimDots (extension : String) :
    ∃ count, extension.toList = List.replicate count '.' ++ (trimDots extension).toList := by
  refine ⟨(extension.toList.takeWhile (· == '.')).length, ?_⟩
  have dots : extension.toList.takeWhile (· == '.') =
      List.replicate (extension.toList.takeWhile (· == '.')).length '.' := by
    apply List.eq_replicate_of_mem
    intro c member
    exact beq_iff_eq.mp (List.mem_takeWhile_imp (p := (· == '.')) member)
  rw [toList_trimDots, ← dots, List.takeWhile_append_dropWhile]

/-- A trimmed extension does not start with a dot. -/
theorem head?_trimDots (extension : String) : (trimDots extension).toList.head? ≠ some '.' := by
  intro first
  rw [toList_trimDots] at first
  exact absurd (Text.stops_of_head?_dropWhile first) (by decide)

/-- What follows some dots and does not start with one is the trimmed extension. -/
theorem toList_trimDots_of_dots {extension : String} {count : Nat} {core : List Char}
    (dots : extension.toList = List.replicate count '.' ++ core) (ends : core.head? ≠ some '.') :
    (trimDots extension).toList = core := by
  rw [toList_trimDots, dots]
  apply Text.dropWhile_append_of_stops
  · intro c member
    rw [List.eq_of_mem_replicate member, beq_self_eq_true]
  · rintro c first
    rw [beq_eq_false_iff_ne]
    rintro rfl
    exact ends first

/-- Extensions are trimmed to the same text just if they are the same up to leading dots. -/
theorem trimDots_eq_iff (left right : String) :
    trimDots left = trimDots right ↔ SameUpToDots left right := by
  constructor
  · intro same
    refine ⟨(trimDots left).toList, head?_trimDots left, exists_dots_trimDots left, ?_⟩
    rw [same]
    exact exists_dots_trimDots right
  · rintro ⟨core, ends, ⟨_, first⟩, _, second⟩
    rw [← String.toList_inj, toList_trimDots_of_dots first ends,
      toList_trimDots_of_dots second ends]

/-- An extension that has been trimmed has nothing left to trim. -/
theorem trimDots_trimDots (extension : String) :
    trimDots (trimDots extension) = trimDots extension := by
  have undotted : (trimDots extension).toList =
      List.replicate 0 '.' ++ (trimDots extension).toList := (List.nil_append _).symm
  rw [← String.toList_inj]
  exact toList_trimDots_of_dots undotted (head?_trimDots extension)

end Language

namespace Settings

/-- The result is the list with some of the given values behind it, in their order, none of which is
the same as a value before it. -/
def Appends {α : Type} (same : α → α → Prop) (list given result : List α) : Prop :=
  ∃ added, result = list ++ added ∧ added.Sublist given ∧
    ∀ before value after, added = before ++ value :: after →
      ∀ earlier ∈ list ++ before, ¬ same earlier value

section

variable {α κ : Type} [DecidableEq κ] (key : α → κ) (kept : α → α)

/-- Adds a value in the form in which it is kept, unless there is one with its key. -/
def addNew (list : List α) (value : α) : List α :=
  if list.any fun other => key other = key value then list else list ++ [kept value]

/-- A value is there already and nothing happens, or it is put at the end. -/
theorem addNew_cases (list : List α) (value : α) :
    ((∃ other ∈ list, key other = key value) ∧ addNew key kept list value = list) ∨
    ((∀ other ∈ list, key other ≠ key value) ∧
      addNew key kept list value = list ++ [kept value]) := by
  unfold addNew
  split
  · rename_i present
    exact .inl ⟨by simpa using present, rfl⟩
  · rename_i absent
    exact .inr ⟨by simpa using absent, rfl⟩

variable {key kept} (keeps : ∀ value, key (kept value) = key value)

include keeps

/-- Adding a value adds its key, if that is new, and no other key. -/
theorem exists_mem_addNew_iff (list : List α) (value : α) (k : κ) :
    (∃ other ∈ addNew key kept list value, key other = k) ↔
      (∃ other ∈ list, key other = k) ∨ key value = k := by
  obtain ⟨⟨other, listed, same⟩, unchanged⟩ | ⟨-, added⟩ := addNew_cases key kept list value
  · rw [unchanged, iff_self_or]
    rintro rfl
    exact ⟨other, listed, same⟩
  · rw [added]
    simp only [List.mem_append, List.mem_singleton, or_and_right, exists_or, exists_eq_left, keeps]

/-- The keys at the end of a run are those of the list and those of the values. -/
theorem exists_mem_foldl_addNew_iff (list values : List α) (k : κ) :
    (∃ other ∈ values.foldl (addNew key kept) list, key other = k) ↔
      (∃ other ∈ list, key other = k) ∨ ∃ value ∈ values, key value = k := by
  induction values generalizing list with
  | nil => simp
  | cons value later ih =>
      rw [List.foldl_cons, ih, exists_mem_addNew_iff keeps, or_assoc]
      simp only [List.mem_cons, or_and_right, exists_or, exists_eq_left]

/-- A run adds some of the values, each with a key that is new where it is added. -/
theorem appends_foldl_addNew (list values : List α) :
    Appends (fun left right => key left = key right) list (values.map kept)
      (values.foldl (addNew key kept) list) := by
  induction values generalizing list with
  | nil => exact ⟨[], (List.append_nil list).symm, .slnil, by simp⟩
  | cons value later ih =>
      obtain ⟨added, result, taken, new⟩ := ih (addNew key kept list value)
      rw [List.foldl_cons, result, List.map_cons]
      obtain ⟨-, unchanged⟩ | ⟨absent, extended⟩ := addNew_cases key kept list value
      · rw [unchanged] at new ⊢
        exact ⟨added, rfl, taken.cons _, new⟩
      · rw [extended] at new ⊢
        refine ⟨kept value :: added, List.append_assoc _ _ _, taken.cons_cons _, ?_⟩
        intro before other after split earlier listed
        cases before with
        | nil =>
            obtain ⟨rfl, rfl⟩ := List.cons.inj split
            rw [List.append_nil] at listed
            change key earlier ≠ key (kept value)
            rw [keeps]
            exact absent earlier listed
        | cons first before =>
            obtain ⟨rfl, rfl⟩ := List.cons.inj split
            apply new before other after rfl earlier
            rwa [List.append_assoc]

omit keeps in
/-- Values whose keys are there already change nothing. -/
theorem foldl_addNew_of_present {list values : List α}
    (present : ∀ value ∈ values, ∃ other ∈ list, key other = key value) :
    values.foldl (addNew key kept) list = list := by
  induction values with
  | nil => rfl
  | cons value later ih =>
      rw [List.forall_mem_cons] at present
      obtain ⟨-, unchanged⟩ | ⟨absent, -⟩ := addNew_cases key kept list value
      · rw [List.foldl_cons, unchanged, ih present.2]
      · obtain ⟨other, listed, same⟩ := present.1
        exact (absent other listed same).elim

/-- A second run with the same values changes nothing. -/
theorem foldl_addNew_foldl_addNew (list values : List α) :
    values.foldl (addNew key kept) (values.foldl (addNew key kept) list) =
      values.foldl (addNew key kept) list := by
  apply foldl_addNew_of_present
  intro value listed
  exact (exists_mem_foldl_addNew_iff keeps list values (key value)).mpr
    (.inr ⟨value, listed, rfl⟩)

end

/-- What is new by a stronger notion of sameness is new by a weaker one. -/
theorem Appends.imp {α : Type} {same other : α → α → Prop} {list given result : List α}
    (appends : Appends same list given result)
    (weaker : ∀ left right, other left right → same left right) :
    Appends other list given result := by
  obtain ⟨added, split, taken, new⟩ := appends
  refine ⟨added, split, taken, ?_⟩
  intro before value after place earlier listed alike
  exact new before value after place earlier listed (weaker earlier value alike)

/-- Keywords are added by their spelling in small letters. -/
theorem addMarker_eq : addMarker = addNew Text.asciiLower id := by
  funext markers marker
  have same : Text.sameAsciiFolded marker =
      fun other => decide (Text.asciiLower other = Text.asciiLower marker) := by
    funext other
    rw [Text.sameAsciiFolded, BEq.comm, beq_eq_decide]
  rw [addMarker, addNew, same, id]

/-- An extension is allowed just if one that is trimmed alike is listed. -/
theorem allows_iff (settings : Settings) (extension : String) :
    settings.allows extension ↔
      ∃ allowed ∈ settings.extensions,
        Language.trimDots allowed = Language.trimDots extension := by
  simp [allows]

/-- Extensions are added by their trimmed texts, and nothing else changes. -/
theorem addExtension_eq (settings : Settings) (extension : String) :
    settings.addExtension extension =
      { settings with
        extensions :=
          addNew Language.trimDots Language.trimDots settings.extensions extension } := by
  simp only [addExtension, addNew, allows, beq_eq_decide]
  split <;> rfl

/-- Adding extensions one by one changes the list of extensions alone. -/
theorem foldl_addExtension (settings : Settings) (extensions : List String) :
    extensions.foldl addExtension settings =
      { settings with
        extensions := extensions.foldl (addNew Language.trimDots Language.trimDots)
          settings.extensions } := by
  induction extensions generalizing settings with
  | nil => rfl
  | cons extension later ih => rw [List.foldl_cons, ih, addExtension_eq, List.foldl_cons]

/-- The merged settings, field by field. -/
theorem merge_eq (settings : Settings) (request : ScanRequest) :
    settings.merge request =
      { extensions := request.extensions.foldl (addNew Language.trimDots Language.trimDots)
          settings.extensions
        markers := request.markers.foldl (addNew Text.asciiLower id) settings.markers
        policy := if request.legacy then .line else settings.policy
        resolveScopes := settings.resolveScopes && !request.legacy && !request.noContext
        excludes := settings.excludes ++ request.excludes
        followLinks := settings.followLinks } := by
  rw [merge, foldl_addExtension, addMarker_eq]

section

variable (settings : Settings) (request : ScanRequest)

/-- Keywords agree up to the case of ASCII letters just if they have the same small letters. -/
theorem sameAsciiFolded_iff (left right : String) :
    Text.sameAsciiFolded left right ↔ Text.asciiLower left = Text.asciiLower right :=
  beq_iff_eq

/-- A keyword is kept as it is given. -/
theorem asciiLower_id (marker : String) : Text.asciiLower (id marker) = Text.asciiLower marker :=
  rfl

/-- The merged keywords are those of the settings and, behind them, the given ones that are new. -/
theorem appends_markers_merge :
    Appends (fun left right => Text.sameAsciiFolded left right) settings.markers request.markers
      (settings.merge request).markers := by
  have markers := appends_foldl_addNew asciiLower_id settings.markers request.markers
  rw [List.map_id] at markers
  rw [merge_eq]
  exact markers.imp fun left right => (sameAsciiFolded_iff left right).mp

/-- Each given keyword is there after merging, up to the case of ASCII letters. -/
theorem exists_mem_markers_merge {marker : String} (given : marker ∈ request.markers) :
    ∃ other ∈ (settings.merge request).markers, Text.sameAsciiFolded marker other := by
  obtain ⟨other, listed, same⟩ :=
    (exists_mem_foldl_addNew_iff asciiLower_id settings.markers request.markers _).mpr
      (.inr ⟨marker, given, rfl⟩)
  rw [merge_eq]
  exact ⟨other, listed, (sameAsciiFolded_iff marker other).mpr same.symm⟩

/-- The merged extensions are those of the settings and, behind them, the given ones that are new.
-/
theorem appends_extensions_merge :
    Appends Language.SameUpToDots settings.extensions (request.extensions.map Language.trimDots)
      (settings.merge request).extensions := by
  have extensions := appends_foldl_addNew Language.trimDots_trimDots settings.extensions
    request.extensions
  rw [merge_eq]
  exact extensions.imp fun left right => (Language.trimDots_eq_iff left right).mpr

/-- Merging allows the given extensions and those that were allowed before. -/
theorem allows_merge_iff (extension : String) :
    (settings.merge request).allows extension ↔ settings.allows extension ∨
      ∃ given ∈ request.extensions, Language.SameUpToDots extension given := by
  rw [allows_iff, allows_iff, merge_eq, exists_mem_foldl_addNew_iff Language.trimDots_trimDots]
  simp only [← Language.trimDots_eq_iff, eq_comm]

/-- A command line that is put on top a second time adds its glob patterns again, and nothing
else. -/
theorem merge_merge :
    (settings.merge request).merge request =
      { settings.merge request with
        excludes := (settings.merge request).excludes ++ request.excludes } := by
  have extensions := foldl_addNew_foldl_addNew Language.trimDots_trimDots settings.extensions
    request.extensions
  have markers := foldl_addNew_foldl_addNew asciiLower_id settings.markers request.markers
  rw [merge_eq settings, merge_eq]
  simp only [extensions, markers]
  cases request.legacy <;> cases request.noContext <;> simp

end

/-- Settings under a command line keep their keywords and extensions and get those of the command
line behind them that they do not have, extensions without their leading dots. They allow what they
allowed and what the command line names. The glob patterns are put together, and the flags only turn
to plain lines or take scopes away. A second time the command line adds nothing but its glob
patterns. -/
theorem merge_adds_what_is_new (settings : Settings) (request : ScanRequest) :
    Appends (fun left right => Text.sameAsciiFolded left right) settings.markers request.markers
      (settings.merge request).markers ∧
    (∀ marker ∈ request.markers, ∃ other ∈ (settings.merge request).markers,
      Text.sameAsciiFolded marker other) ∧
    Appends Language.SameUpToDots settings.extensions (request.extensions.map Language.trimDots)
      (settings.merge request).extensions ∧
    (∀ extension, (settings.merge request).allows extension ↔ settings.allows extension ∨
      ∃ given ∈ request.extensions, Language.SameUpToDots extension given) ∧
    (settings.merge request).excludes = settings.excludes ++ request.excludes ∧
    (request.legacy → (settings.merge request).policy = .line ∧
      (settings.merge request).resolveScopes = false) ∧
    (request.noContext → (settings.merge request).resolveScopes = false) ∧
    (request.legacy = false → (settings.merge request).policy = settings.policy) ∧
    (request.legacy = false → request.noContext = false →
      (settings.merge request).resolveScopes = settings.resolveScopes) ∧
    (settings.merge request).followLinks = settings.followLinks ∧
    (settings.merge request).merge request =
      { settings.merge request with
        excludes := (settings.merge request).excludes ++ request.excludes } := by
  refine ⟨appends_markers_merge settings request,
    fun marker => exists_mem_markers_merge settings request,
    appends_extensions_merge settings request, allows_merge_iff settings request, ?_, ?_, ?_, ?_,
    ?_, ?_, merge_merge settings request⟩
  · rw [merge_eq]
  · intro legacy
    simp [merge_eq, legacy]
  · intro noContext
    simp [merge_eq, noContext]
  · intro modern
    simp [merge_eq, modern]
  · intro modern context
    simp [merge_eq, modern, context]
  · rw [merge_eq]

/-- A keyword that is there in another case, one that comes twice, and an extension under three
spellings. -/
theorem merge_adds_what_is_new_once :
    ∃ request : ScanRequest, request.markers = ["hack", "todo", "HACK"] ∧
      request.extensions = [".rs", "py", "rs", "..rs"] ∧ request.noContext ∧
      (default.merge request).markers = ["TODO", "FIXME", "hack"] ∧
      (default.merge request).extensions = ["py", "js", "java", "c", "h", "hs", "rs"] ∧
      (∃ other ∈ (default.merge request).markers, Text.sameAsciiFolded "HACK" other) ∧
      (default.merge request).resolveScopes = false := by
  obtain ⟨request, given, named, plain⟩ : ∃ request : ScanRequest,
      request.markers = ["hack", "todo", "HACK"] ∧
        request.extensions = [".rs", "py", "rs", "..rs"] ∧ request.noContext :=
    ⟨⟨".", none, none, false, true, .markdown, _, _, ["a*"]⟩, rfl, rfl, rfl⟩
  have merged := merge_adds_what_is_new default request
  have markers : (default.merge request).markers = ["TODO", "FIXME", "hack"] := by
    simp [merge_eq, given, default, addNew, Text.asciiLower, ← String.toList_inj]
  have extensions : (default.merge request).extensions =
      ["py", "js", "java", "c", "h", "hs", "rs"] := by
    simp [merge_eq, named, default, addNew, Language.trimDots, ← String.toList_inj]
  refine ⟨request, given, named, plain, markers, extensions, ?_, ?_⟩
  · exact merged.2.1 "HACK" (by simp [given])
  · exact merged.2.2.2.2.2.2.1 plain

end Settings

end MarkerReport
