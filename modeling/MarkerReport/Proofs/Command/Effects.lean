import Mathlib
import MarkerReport.Proofs.Command.Stages
import MarkerReport.Proofs.Files.Delivered

/-! # What a scan leaves behind

A scan reads everything before it writes anything. So it leaves the files as they are when it fails
on the way or finds nothing; otherwise it touches the file that the path of its report leads to, and
makes those directories above it that were not there
(`MarkerReport.ScanRequest.run_changes_only_output`). Writing the report is no single step: what it
leaves when it fails half-way is a part of the report, and a device keeps nothing of it
(`MarkerReport.ScanRequest.run_changes_only_output_fails`).
-/

namespace MarkerReport

namespace ReportLayout

/-- Making the directory above a file makes at most the directories above it. -/
theorem grows_makeParent (tree : FileTree) (path : String) (around : Surroundings) :
    tree.Grows (makeParent tree path around).1 (Path.directoriesAbove path) := by
  rw [makeParent_tree, Path.directoriesAbove]
  cases Path.parent? path with
  | none => exact FileTree.Grows.refl tree _
  | some parent => exact FileTree.grows_makeAllOf tree _ around

/-- Where its file can be opened, a report is filled into it. -/
theorem write_eq_of_opens {layout : ReportLayout} {root path : String} {items : List Item}
    {tree ready : FileTree} {around : Surroundings} {location : Location}
    (made : makeParent tree path around = (ready, .ok ())) (opens : ready.Opens path location) :
    layout.write root items tree path around =
      (ready.fill around location (Utf8.encode (layout.render root items))).map id
        (Except.mapError (.io ("Failed to write report to " ++ path))) := by
  rw [write, made]
  dsimp only
  rw [opens.write_eq]
  rcases ready.fill around location (Utf8.encode (layout.render root items)) with
    ⟨after, cause | _⟩
  · rfl
  · rfl

/-- Writing a report delivers its text to the path. -/
theorem delivers_write (layout : ReportLayout) (root : String) (items : List Item)
    (tree : FileTree) (path : String) (around : Surroundings) :
    tree.Delivers path around (Utf8.encode (layout.render root items))
      (layout.write root items tree path around).1
      (layout.write root items tree path around).2 := by
  have grows := grows_makeParent tree path around
  rcases made : makeParent tree path around with ⟨ready, error | _⟩
  · rw [made] at grows
    rw [write, made]
    exact .unopened grows
  rw [made] at grows
  rcases ready.write_cases path (Utf8.encode (layout.render root items)) around with
    ⟨cause, failed⟩ | ⟨location, opens⟩
  · rw [write, made]
    dsimp only
    rw [failed]
    exact .unopened grows
  rw [write_eq_of_opens made opens, FileTree.fill]
  cases around.refusal location with
  | some cause => exact .unopened grows
  | none =>
      cases fate : around.fate location with
      | kept => exact .kept grows opens fate
      | dropped => exact .dropped grows opens fate
      | cut count cause => exact .cut grows opens fate

end ReportLayout

namespace ScanRequest

variable {request : ScanRequest} {tree : FileTree} {settings : Settings} {items : List Item}
  {around : Surroundings}

/-- The items of a scan have scopes, all of them or none, as the settings say. -/
theorem layout_eq_of_findItems (found : request.findItems tree = .ok (settings, items))
    (marked : items ≠ []) :
    request.layout settings = ⟨request.format, items.all (·.scope.isSome)⟩ := by
  obtain ⟨-, scanner, ready, outcome, scanned, rfl⟩ := findItems_eq_ok_iff.mp found
  obtain ⟨-, rfl, -⟩ := Scanner.ofSettings_eq_ok_iff.mp ready
  have uniform : ∀ item ∈ outcome.toList,
      item.scope.isSome = scanner.settings.resolveScopes := by
    intro item member
    obtain ⟨path, source, member⟩ := Scanner.exists_source_of_mem_scan scanned member
    exact Scanner.isSome_scope_of_mem_scanSource member
  have all : outcome.toList.all (·.scope.isSome) = scanner.settings.resolveScopes := by
    obtain ⟨first, later, whole⟩ := List.exists_cons_of_ne_nil marked
    cases resolved : scanner.settings.resolveScopes with
    | true => simpa [resolved] using uniform
    | false =>
        have bare := uniform first (by simp [whole])
        simp_all
  rw [layout, all]

/-- A scan that fails before it has its items leaves the files as they are. -/
theorem run_of_failure {failure : Failure} (stopped : request.findItems tree = .error failure)
    (around : Surroundings) :
    request.run tree around = { tree, outcome := .error failure } := by
  rw [run, stopped]

/-- A scan changes the file that its output path leads to, and makes directories above it. -/
theorem run_changesOnly (request : ScanRequest) (tree : FileTree) (around : Surroundings) :
    tree.ChangesOnly (request.run tree around).tree request.outputPath around := by
  have unchanged : tree.ChangesOnly tree request.outputPath around :=
    (FileTree.Grows.refl tree _).changesOnly
  cases found : request.findItems tree with
  | error failure =>
      rw [run_of_failure found]
      exact unchanged
  | ok pair =>
      obtain ⟨settings, items⟩ := pair
      by_cases unmarked : items = []
      · subst unmarked
        rw [run_of_no_items found]
        exact unchanged
      · rw [run_of_items found unmarked]
        exact (ReportLayout.delivers_write _ _ _ _ _ _).changesOnly

/-- A scan says that it wrote its report only if that was written. -/
theorem write_eq_ok_of_outcome {printed : String}
    (succeeded : (request.writeReport tree settings items around).outcome = .ok printed) :
    ((request.layout settings).write request.directory items tree request.outputPath around).2 =
      .ok () := by
  cases result : ((request.layout settings).write request.directory items tree
      request.outputPath around).2 with
  | ok _ => rfl
  | error cause =>
      rw [outcome_writeReport_eq_error_iff.mpr ⟨cause, result, rfl⟩] at succeeded
      cases succeeded

/-- A scan that fails before it has its items, or has none, leaves the files as they are. One that
has items writes their report, laid out with a column for scopes if all of them have one; if it
succeeds, the report is what is read from its file, unless that is a device that keeps nothing. If
it fails to write the report, it leaves at most directories above it behind, or, if writing stopped
in the open file, a front part of the report. In all cases no other place changes. -/
theorem run_changes_only_output (request : ScanRequest) (tree : FileTree)
    (around : Surroundings) :
    tree.ChangesOnly (request.run tree around).tree request.outputPath around ∧
    (∀ failure, request.findItems tree = .error failure →
      (request.run tree around).outcome = .error failure ∧
        (request.run tree around).tree = tree) ∧
    (∀ settings, request.findItems tree = .ok (settings, []) →
      (request.run tree around).tree = tree) ∧
    ∀ settings items, request.findItems tree = .ok (settings, items) → items ≠ [] →
      ∃ report, report = Utf8.encode (ReportLayout.render
          ⟨request.format, items.all (·.scope.isSome)⟩ request.directory items) ∧
        (∀ printed, (request.run tree around).outcome = .ok printed →
          (request.run tree around).tree.Meets request.outputPath around .kept ∧
              (request.run tree around).tree.read request.outputPath = .ok report ∨
            (request.run tree around).tree.Meets request.outputPath around .dropped ∧
              tree.Grows (request.run tree around).tree
                (Path.directoriesAbove request.outputPath)) ∧
        ∀ failure, (request.run tree around).outcome = .error failure →
          tree.Grows (request.run tree around).tree
              (Path.directoriesAbove request.outputPath) ∨
            ∃ count cause,
              (request.run tree around).tree.Meets request.outputPath around (.cut count cause) ∧
                (request.run tree around).tree.read request.outputPath =
                  .ok (report.take count) := by
  refine ⟨run_changesOnly request tree around, ?_, ?_, ?_⟩
  · intro failure stopped
    rw [run_of_failure stopped]
    exact ⟨rfl, rfl⟩
  · intro settings found
    rw [run_of_no_items found]
  · intro settings items found marked
    have delivers := ReportLayout.delivers_write (request.layout settings) request.directory items
      tree request.outputPath around
    refine ⟨_, rfl, ?_⟩
    rw [run_of_items found marked, ← layout_eq_of_findItems found marked]
    constructor
    · intro printed succeeded
      rw [write_eq_ok_of_outcome succeeded] at delivers
      exact delivers.of_ok
    · intro failure failed
      obtain ⟨cause, refused, -⟩ := outcome_writeReport_eq_error_iff.mp failed
      rw [refused] at delivers
      exact delivers.of_error

/-- A working directory with a source file, a link to the null device, and a file that stands in it
twice. -/
def sampleTree : FileTree where
  entries := [(["dev"], .directory), (nullDevice, .file []), (["work"], .directory),
    (["work", "a.py"], .file (Utf8.encode "# TODO: x\n".toList)),
    (["work", "out.md"], .link "/dev/null"), (["work", "old.md"], .file [0x61]),
    (["work", "same.md"], .file [0x61])]
  home := ["work"]

/-- What a scan of the working directory finds there. -/
def sampleItem : Item := ⟨"./a.py", 1, some "<module>", "TODO", "x"⟩

/-- A scan of the working directory with its report at a given path. -/
def sampleRequest (output : String) : ScanRequest := { directory := ".", output := some output }

/-- The settings of the scan are the defaults, as there is no settings file. -/
theorem settings_sample (output : String) :
    (sampleRequest output).settings sampleTree = .ok .default := by
  have absent : implicitConfigs.find? sampleTree.reaches = none := by cbv
  have unnamed : (sampleRequest output).configPath? sampleTree = none := by
    rw [configPath?, absent]
    rfl
  have base : (sampleRequest output).baseSettings sampleTree = .ok .default := by
    rw [baseSettings, unnamed]
    rfl
  have merged : Settings.default.merge (sampleRequest output) = .default := rfl
  have valid : Settings.default.validate = .ok () := by decide +kernel
  rw [settings, base]
  simp only [bind, Except.bind, merged, valid]
  rfl

/-- The scan looks at the source file alone. -/
theorem discover_sample : sampleTree.discover .default "." = .ok ["./a.py"] := by
  apply @FileTree.discover_of_filesBelow _ _ [] _ ["work"] _ rfl
  · cbv
  · decide +kernel

/-- The source file is text. -/
theorem readSource_sample : sampleTree.readSource "./a.py" = .ok "# TODO: x\n".toList := by
  cbv

/-- There is one item in its text. -/
theorem scanSource_sample :
    Scanner.scanSource ⟨.default, .default⟩ "./a.py" "# TODO: x\n".toList = [sampleItem] := by
  have areWords : Keywords.default.AreWords := by decide +kernel
  simp only [Scanner.scanSource_eq_map, Scanner.findings, Finding.extract, Finding.inComments,
    Finding.inComment_eq_of_areWords areWords]
  decide +kernel

/-- The scan finds this item, wherever its report goes. -/
theorem findItems_sample (output : String) :
    (sampleRequest output).findItems sampleTree = .ok (.default, [sampleItem]) := by
  have ready : Scanner.ofSettings .default = .ok ⟨.default, .default⟩ := by decide +kernel
  have scanned := @Scanner.scan_of_discover ⟨.default, .default⟩ _ _ _ _ discover_sample
    readSource_sample
  rw [scanSource_sample] at scanned
  exact findItems_eq_ok_iff.mpr ⟨settings_sample output, _, ready, _, scanned, rfl⟩

/-- The scan writes the report on this item. -/
theorem run_sample (output : String) (around : Surroundings) :
    (sampleRequest output).run sampleTree around =
      (sampleRequest output).writeReport sampleTree .default [sampleItem] around :=
  run_of_items (findItems_sample output) (List.cons_ne_nil _ _) around

/-- The report goes to an absolute path, below a directory that is made for it. -/
theorem run_changes_only_output_absolute :
    ((sampleRequest "/work/r/x.md").run sampleTree .plain).outcome =
      .ok "Wrote Markdown report to /work/r/x.md\n" ∧
    sampleTree.lookup ["work", "r"] = none ∧
    ((sampleRequest "/work/r/x.md").run sampleTree .plain).tree.read "/work/r/x.md" =
      .ok (Utf8.encode ("# TODO-MD v2 Report\n\n**Scanned directory:** \x60.\x60  \n" ++
        "**Found:** 1 items\n\n| # | File | Line | Context | Marker | Comment |\n" ++
        "|---|------|-----:|---------|--------|---------|\n" ++
        "| 1 | \x60./a.py\x60 | 1 | <module> | TODO | x |\n").toList) := by
  have wrote : ((sampleRequest "/work/r/x.md").run sampleTree .plain).outcome =
      .ok "Wrote Markdown report to /work/r/x.md\n" := by
    rw [run_sample]
    cbv
  refine ⟨wrote, rfl, ?_⟩
  obtain ⟨-, -, -, reported⟩ :=
    run_changes_only_output (sampleRequest "/work/r/x.md") sampleTree .plain
  obtain ⟨report, rendered, succeeded, -⟩ :=
    reported _ _ (findItems_sample _) (List.cons_ne_nil _ _)
  rcases succeeded _ wrote with ⟨-, stored⟩ | ⟨⟨location, -, dropped⟩, -⟩
  · apply stored.trans
    rw [rendered]
    decide +kernel
  · cases dropped

/-- The null device keeps nothing of a report that is written to it, though writing succeeds. When
writing stops in a file that was opened for it, that file is new. And a file that stands at a second
location changes there, too. -/
theorem run_changes_only_output_fails :
    (∀ output, (sampleRequest output).findItems sampleTree = .ok (.default, [sampleItem])) ∧
    (((sampleRequest "out.md").run sampleTree).outcome =
        .ok "Wrote Markdown report to out.md\n" ∧
      ((sampleRequest "out.md").run sampleTree).tree.read "out.md" = .ok [] ∧
      Utf8.encode (ReportLayout.render ⟨.markdown, true⟩ "." [sampleItem]) ≠ []) ∧
    (∃ around : Surroundings, around = { fate := fun _ => .cut 0 .other } ∧
      ((sampleRequest "new.md").run sampleTree around).outcome =
        .error ⟨["Failed to write new.md"], .io "Failed to write report to new.md" .other⟩ ∧
      sampleTree.lookup ["work", "new.md"] = none ∧
      ((sampleRequest "new.md").run sampleTree around).tree.lookup ["work", "new.md"] =
        some (.file [])) ∧
    ∃ around : Surroundings,
      around = { aliases := fun place =>
        if place = ["work", "old.md"] then [["work", "same.md"]] else [] } ∧
      sampleTree.lookup ["work", "same.md"] = some (.file [0x61]) ∧
      ((sampleRequest "old.md").run sampleTree around).tree.lookup ["work", "same.md"] =
        some (.file (Utf8.encode (ReportLayout.render ⟨.markdown, true⟩ "." [sampleItem]))) := by
  refine ⟨findItems_sample, ⟨?_, ?_, ?_⟩, ⟨_, rfl, ?_, rfl, ?_⟩, ⟨_, rfl, rfl, ?_⟩⟩
  · rw [run_sample]
    cbv
  · rw [run_sample]
    cbv
  · decide +kernel
  · rw [run_sample]
    cbv
  · rw [run_sample]
    cbv
  · rw [run_sample]
    cbv

end ScanRequest

end MarkerReport
