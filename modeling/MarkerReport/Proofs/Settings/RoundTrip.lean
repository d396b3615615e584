import MarkerReport.Proofs.Files.Written
import MarkerReport.Proofs.Text.Utf8
import MarkerReport.Proofs.Yaml.RoundTrip
import MarkerReport.Settings.Document

/-! # Settings that are read back

A document of settings has a pair for each field, in a fixed order and none twice. Reading the pairs
one by one adds what they say to what is known, so a document with some of the pairs gives the
settings in those fields and leaves the defaults in the others. What is saved is the document with
all pairs, and loading it gives the settings back (`MarkerReport.Settings.load_saved`).
-/

namespace MarkerReport.Settings

open Yaml

/-- A field of the settings. -/
inductive Field where
  | extensions
  | markers
  | policy
  | resolveScopes
  | excludes
  | followLinks
deriving DecidableEq

namespace Field

/-- The fields in the order in which a document has them. -/
def all : List Field := [.extensions, .markers, .policy, .resolveScopes, .excludes, .followLinks]

/-- What a document has for a field: its key, and its value in the given settings. -/
def pair (settings : Settings) : Field → Pair
  | .extensions => .sequence "extensions" settings.extensions
  | .markers => .sequence "markers" settings.markers
  | .policy => .field "extraction" (policyName settings.policy)
  | .resolveScopes => .field "resolve_scopes" (if settings.resolveScopes then "true" else "false")
  | .excludes => .sequence "exclude_patterns" settings.excludes
  | .followLinks => .field "follow_links" (if settings.followLinks then "true" else "false")

/-- The pair written for a field has a key and a value that the reader takes as they are. -/
theorem isProper_pair (settings : Settings) (field : Field) : (field.pair settings).IsProper := by
  cases field with
  | extensions => exact (by decide +kernel : Scanner.isKey "extensions".toList = true)
  | markers => exact (by decide +kernel : Scanner.isKey "markers".toList = true)
  | excludes => exact (by decide +kernel : Scanner.isKey "exclude_patterns".toList = true)
  | policy =>
      refine ⟨by decide +kernel, ?_⟩
      cases settings.policy <;>
        exact ⟨plainText_of_allowsPlain (by decide +kernel), by decide +kernel⟩
  | resolveScopes =>
      refine ⟨by decide +kernel, ?_⟩
      cases settings.resolveScopes <;>
        exact ⟨plainText_of_allowsPlain (by decide +kernel), by decide +kernel⟩
  | followLinks =>
      refine ⟨by decide +kernel, ?_⟩
      cases settings.followLinks <;>
        exact ⟨plainText_of_allowsPlain (by decide +kernel), by decide +kernel⟩

end Field

/-- The lines of a document for a field. -/
def entry (settings : Settings) (field : Field) : List Char := (field.pair settings).print

/-- The lines of a document for some of the fields. -/
def entries (settings : Settings) (kept : Field → Bool) : List Char :=
  (Field.all.filter kept).flatMap settings.entry

/-- Settings are written with an entry for every field. -/
theorem toYaml_eq_entries (settings : Settings) :
    settings.toYaml = settings.entries fun _ => true := by
  simp [toYaml, entries, Field.all, entry, Field.pair, Pair.print]

/-- The settings with the defaults in all fields but the given ones. -/
def restrictedTo (settings : Settings) (kept : Field → Bool) : Settings where
  extensions := if kept .extensions then settings.extensions else default.extensions
  markers := if kept .markers then settings.markers else default.markers
  policy := if kept .policy then settings.policy else default.policy
  resolveScopes := if kept .resolveScopes then settings.resolveScopes else default.resolveScopes
  excludes := if kept .excludes then settings.excludes else default.excludes
  followLinks := if kept .followLinks then settings.followLinks else default.followLinks

/-- What is known after the given fields have been read. -/
def known (settings : Settings) (kept : Field → Bool) : Partial where
  extensions := if kept .extensions then some settings.extensions else none
  markers := if kept .markers then some settings.markers else none
  policy := if kept .policy then some settings.policy else none
  resolveScopes := if kept .resolveScopes then some settings.resolveScopes else none
  excludes := if kept .excludes then some settings.excludes else none
  followLinks := if kept .followLinks then some settings.followLinks else none

/-- Read back, the fields that were kept have their values and the others their defaults. -/
theorem ofPartial_known (settings : Settings) (kept : Field → Bool) :
    ofPartial (settings.known kept) = settings.restrictedTo kept := by
  have chosen {α : Type} (b : Bool) (value other : α) :
      (if b then some value else none).getD other = if b then value else other := by
    cases b <;> rfl
  simp only [ofPartial, known, restrictedTo, chosen]

/-- A sequence of texts is read back item by item. -/
theorem readTexts_sequence (document : Document) (texts : List String) :
    readTexts document (.sequence {} (texts.map fun text => .scalar {} (styleFor text) text)) =
      some texts := by
  have items : (texts.map fun text => Node.scalar {} (styleFor text) text).mapM
      (readText document) = some texts := by
    induction texts with
    | nil => rfl
    | cons text texts ih => simp [List.mapM_cons, readText, Document.resolve, ih]
  simpa [readTexts, Document.resolve] using items

/-- A policy is read back from its name. -/
theorem readPolicy_name (document : Document) (policy : Policy) :
    readPolicy document (.scalar {} .plain (policyName policy)) = some policy := by
  cases policy <;> rfl

/-- A truth value is read back from its word. -/
theorem readBool_word (document : Document) (b : Bool) :
    readBool document (.scalar {} .plain (if b then "true" else "false")) = some b := by
  cases b <;> rfl

/-- Reading the pair of a field that is not known yet. -/
theorem readField_pair (document : Document) (settings : Settings) {kept : Field → Bool}
    {field : Field} (unknown : kept field = false) :
    readField document (settings.known kept) (field.pair settings).key
        (field.pair settings).value =
      some (settings.known fun other => kept other || other == field) := by
  cases field with
  | extensions =>
      simp [Field.pair, Pair.key, Pair.value, readField, once, known, unknown, readTexts_sequence]
  | markers =>
      simp [Field.pair, Pair.key, Pair.value, readField, once, known, unknown, readTexts_sequence]
  | policy =>
      simp [Field.pair, Pair.key, Pair.value, readField, once, known, unknown, readPolicy_name]
  | resolveScopes =>
      simp [Field.pair, Pair.key, Pair.value, readField, once, known, unknown, readBool_word]
  | excludes =>
      simp [Field.pair, Pair.key, Pair.value, readField, once, known, unknown, readTexts_sequence]
  | followLinks =>
      simp [Field.pair, Pair.key, Pair.value, readField, once, known, unknown, readBool_word]

/-- Reading the pairs of fields of which none comes twice. -/
theorem readPairs_fields (document : Document) (settings : Settings) {fields : List Field}
    (distinct : fields.Nodup) {kept : Field → Bool}
    (unknown : ∀ field ∈ fields, kept field = false) :
    readPairs document (settings.known kept)
        (fields.map fun field => (field.pair settings).node) =
      some (settings.known fun field => kept field || fields.contains field) := by
  induction fields generalizing kept with
  | nil => simp [readPairs]
  | cons field fields ih =>
      obtain ⟨fresh, distinct⟩ := List.nodup_cons.mp distinct
      obtain ⟨first, others⟩ := List.forall_mem_cons.mp unknown
      have later : ∀ other ∈ fields, (kept other || other == field) = false := by
        intro other member
        have apart : other ≠ field := by
          rintro rfl
          exact fresh member
        simp [others other member, apart]
      have key : readText document (.scalar {} .plain (field.pair settings).key) =
          some (field.pair settings).key := rfl
      rw [List.map_cons, Pair.node, readPairs, key]
      simp only [readField_pair document settings first]
      rw [ih distinct later]
      simp only [List.contains_cons, Bool.or_assoc]

/-- A document with an entry for each of some distinct fields gives the settings restricted to
these. -/
theorem ofDocument?_fields (settings : Settings) {fields : List Field} (distinct : fields.Nodup) :
    ofDocument? ⟨Pair.root (fields.map (Field.pair settings)), []⟩ =
      some (settings.restrictedTo fields.contains) := by
  cases fields with
  | nil => rfl
  | cons field fields =>
      have read := @readPairs_fields
        ⟨Pair.root ((field :: fields).map (Field.pair settings)), []⟩ settings _ distinct
        (fun _ => false) (fun _ _ => rfl)
      have nodes : ((field :: fields).map (Field.pair settings)).map Pair.node =
          (field :: fields).map fun field => (field.pair settings).node := List.map_map
      rw [← nodes] at read
      rw [← ofPartial_known]
      exact congrArg (Option.map ofPartial) read

/-- Of the list of all fields just those kept are in the filtered one. -/
theorem contains_filter_all (kept : Field → Bool) : (Field.all.filter kept).contains = kept := by
  funext field
  have listed : field ∈ Field.all := by cases field <;> decide
  simp [List.contains_eq_mem, listed]

/-- Settings are read back from the lines of some fields, with the defaults for the rest. -/
theorem ofYaml?_entries (settings : Settings) (kept : Field → Bool) :
    ofYaml? (settings.entries kept) = some (settings.restrictedTo kept) := by
  have printed : settings.entries kept =
      ((Field.all.filter kept).map (Field.pair settings)).flatMap Pair.print := by
    rw [List.flatMap_map]
    rfl
  have proper : ∀ pair ∈ (Field.all.filter kept).map (Field.pair settings), pair.IsProper := by
    intro pair member
    obtain ⟨field, -, rfl⟩ := List.mem_map.mp member
    exact Field.isProper_pair settings field
  have distinct : (Field.all.filter kept).Nodup := List.Pairwise.filter _ (by decide)
  rw [ofYaml?, printed, Document.read?_print proper]
  exact (ofDocument?_fields settings distinct).trans (by rw [contains_filter_all])

/-- Settings are loaded from a file that holds a text they are read from. -/
theorem load_of_read {tree : FileTree} {path : String} {source : List Char} {settings : Settings}
    (stored : tree.read path = .ok (Utf8.encode source)) (read : ofYaml? source = some settings) :
    load tree path = .ok settings := by
  simp [load, FileTree.readSettingsText, stored, Utf8.decode_encode, read]

/-- Settings restricted to all fields are the same settings. -/
theorem restrictedTo_all (settings : Settings) : (settings.restrictedTo fun _ => true) = settings :=
  rfl

/-- Settings are saved by writing their text to the path. -/
theorem write_of_save {settings : Settings} {tree after : FileTree} {path : String}
    (saved : settings.save tree path = (after, .ok ())) :
    tree.write path (Utf8.encode settings.toYaml) = (after, .ok ()) := by
  unfold save at saved
  split at saved
  · rename_i written
    rw [written, (Prod.mk.inj saved).1]
  · cases saved

/-- Settings can be saved wherever a file can be written, and loading what was saved gives them
back. The document has an entry for each field, and loading a document with some of these entries
only gives the same settings in those fields and the defaults in the others. -/
theorem load_saved (settings : Settings) :
    (∀ (tree : FileTree) (path : String) (content : List UInt8) (after : FileTree),
      tree.write path content = (after, .ok ()) →
        ∃ saved, settings.save tree path = (saved, .ok ())) ∧
    (∀ (tree : FileTree) (path : String) (after : FileTree),
      settings.save tree path = (after, .ok ()) → load after path = .ok settings) ∧
    settings.toYaml = Field.all.flatMap settings.entry ∧
    ∀ (kept : Field → Bool) (tree : FileTree) (path : String),
      tree.read path = .ok (Utf8.encode ((Field.all.filter kept).flatMap settings.entry)) →
        load tree path = .ok (settings.restrictedTo kept) := by
  have document : settings.toYaml = Field.all.flatMap settings.entry := toYaml_eq_entries settings
  refine ⟨?_, ?_, document, ?_⟩
  · intro tree path content after written
    obtain ⟨saved, wrote⟩ := FileTree.exists_write written (Utf8.encode settings.toYaml)
    exact ⟨saved, by rw [save, wrote]⟩
  · intro tree path after saved
    have stored := FileTree.read_of_write (write_of_save saved)
    have read := ofYaml?_entries settings fun _ => true
    rw [← toYaml_eq_entries, restrictedTo_all] at read
    exact load_of_read stored read
  · intro kept tree path stored
    exact load_of_read stored (ofYaml?_entries settings kept)

/-- Settings with texts that are hard to write down. -/
def peculiar : Settings where
  extensions := []
  markers := ["", "true", "0x1F", "- a: b #c", "it's", " x ", "a\n\n  b\n\n", "\n", "x\n y",
    "\t\"\\\u0085", "a\u2028b", "a\u2028 b", "\uFEFF\x00", "&a", "!t", "|", "é"]
  policy := .line
  resolveScopes := false
  excludes := ["*.py", "[a-z]", "~", "1e3"]
  followLinks := true

theorem load_saved_peculiar :
    ∃ saved, peculiar.save .empty "c.yml" = (saved, .ok ()) ∧
      load saved "c.yml" = .ok peculiar ∧
      load ⟨[(["c.yml"], .file (Utf8.encode (peculiar.entry .markers)))], []⟩ "c.yml" =
        .ok { default with markers := peculiar.markers } := by
  obtain ⟨savable, loads, -, restricted⟩ := load_saved peculiar
  have steps : Step.ofPath? "c.yml" = some [.enter "c.yml"] := by decide +kernel
  have written : FileTree.empty.write "c.yml" [] =
      (FileTree.empty.insert ["work", "c.yml"] (.file []), .ok ()) := by
    have unslashed : "c.yml".endsWith "/" = false := by decide +kernel
    have inside : Step.start ["work"] "c.yml" = ["work"] := by decide +kernel
    have vacant : FileTree.empty.lookup ["work", "c.yml"] = none := rfl
    have opens : FileTree.empty.Opens "c.yml" ["work", "c.yml"] := by
      refine ⟨unslashed, ?_, by simp [vacant], by simp [vacant]⟩
      simp [FileTree.locate, FileTree.empty, steps, inside, FileTree.follow, FileTree.lookup,
        nullDevice, List.lookup_cons]
    exact opens.write_eq [] .plain
  obtain ⟨saved, saves⟩ := savable _ _ _ _ written
  refine ⟨saved, saves, loads _ _ _ saves, ?_⟩
  apply restricted fun field => field == .markers
  have only : (Field.all.filter fun field => field == .markers).flatMap peculiar.entry =
      peculiar.entry .markers := by
    rw [show (Field.all.filter fun field => field == .markers) = [.markers] by decide,
      List.flatMap_singleton]
  rw [only]
  simp [FileTree.read, FileTree.find, FileTree.locate, steps, FileTree.follow, FileTree.lookup]

end MarkerReport.Settings
