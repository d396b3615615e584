import Mathlib.Order.Bounds.Basic
import MarkerReport.Proofs.Scan.Join
import MarkerReport.Proofs.Text.WellFormed

/-! # Reading source files

A source file is read just if its bytes are well-formed, and its text is the one with these bytes. A
file that is not read is reported with the length of the longest well-formed start of its bytes, and
has no part in a scan (`MarkerReport.FileTree.readSource_wellFormed`).
-/

namespace MarkerReport.Scanner

/-- Every item of a file carries the path by which the file was found. -/
theorem file_of_mem_scanFile {scanner : Scanner} {tree : FileTree} {path : String} {item : Item}
    (found : item ∈ scanner.scanFile tree path) : item.file = path := by
  obtain ⟨source, member⟩ := exists_source_of_mem_scanFile found
  rw [scanSource_eq_map, List.mem_map] at member
  obtain ⟨finding, -, rfl⟩ := member
  rfl

/-- An item of a scan is an item of the file that it names. -/
theorem mem_scanFile_of_mem_scan {scanner : Scanner} {tree : FileTree} {root : String}
    {outcome : Outcome} (scanned : scanner.scan tree root = .ok outcome) {item : Item}
    (found : item ∈ outcome.toList) : item ∈ scanner.scanFile tree item.file := by
  obtain ⟨paths, -, listed⟩ := bind_eq_ok_iff.mp scanned
  obtain rfl := Except.ok.inj listed
  rw [toList_scanFiles, List.mem_flatMap] at found
  obtain ⟨path, -, member⟩ := found
  rwa [file_of_mem_scanFile member]

end MarkerReport.Scanner

namespace MarkerReport.FileTree

open Scanner

/-- A file is read as a text exactly when its content encodes that text. -/
theorem readSource_eq_ok_iff_encode {tree : FileTree} {path : String} {content : List UInt8}
    (stands : tree.read path = .ok content) (text : List Char) :
    tree.readSource path = .ok text ↔ Utf8.encode text = content := by
  rw [readSource_eq_ok_iff, ← Utf8.decode_eq_ok_iff, HoldsText, stands]
  constructor
  · rintro ⟨bytes, same, decoded⟩
    rwa [Except.ok.inj same]
  · intro decoded
    exact ⟨content, rfl, decoded⟩

/-- A source file is read if and only if its bytes are well-formed, and its text is then written
with just these bytes. Otherwise the file is refused with the length of the longest well-formed
start of its bytes; no scanner finds anything in it, and a scan goes as if it were not there. -/
theorem readSource_wellFormed {tree : FileTree} {path : String} {content : List UInt8}
    (stands : tree.read path = .ok content) :
    ((∃ text, tree.readSource path = .ok text) ↔ Utf8.WellFormed content) ∧
    (∀ text, tree.readSource path = .ok text ↔ Utf8.encode text = content) ∧
    (¬ Utf8.WellFormed content →
      (∃ offset, IsGreatest
          {length | length ≤ content.length ∧ Utf8.WellFormed (content.take length)} offset ∧
        tree.readSource path = .error (.validation
          (path ++ " is not valid UTF-8 (invalid byte at offset " ++ toString offset ++ ")")
          none (some "UTF-8") none)) ∧
      ∀ scanner : Scanner, scanner.scanFile tree path = [] ∧
        (∀ before after, scanner.scanFiles tree (before ++ path :: after) =
          scanner.scanFiles tree (before ++ after)) ∧
        ∀ root outcome, scanner.scan tree root = .ok outcome →
          ∀ item ∈ outcome.toList, item.file ≠ path) := by
  have reads := readSource_eq_ok_iff_encode stands
  have accepts : (∃ text, tree.readSource path = .ok text) ↔ Utf8.WellFormed content := by
    simp only [reads, Utf8.wellFormed_iff_exists_encode]
  refine ⟨accepts, reads, fun illFormed => ⟨?_, fun scanner => ?_⟩⟩
  · cases decoded : Utf8.decode content with
    | ok text =>
        exact (illFormed ((Utf8.exists_decode_iff content).mp ⟨text, decoded⟩)).elim
    | error fault =>
        refine ⟨fault.offset, Utf8.isGreatest_of_decode_eq_error decoded, ?_⟩
        simp only [readSource, stands, decodeSource, decoded]
  · have nothing : scanner.scanFile tree path = [] := by
      apply scanFile_of_textless
      intro text holds
      exact illFormed (accepts.mp ⟨text, readSource_eq_ok_iff.mpr holds⟩)
    refine ⟨nothing, fun before after => ?_, fun root outcome scanned item found same => ?_⟩
    · rw [scanFiles, scanFiles, List.flatMap_append, List.flatMap_cons, nothing, List.nil_append,
        List.flatMap_append]
    · have member := mem_scanFile_of_mem_scan scanned found
      rw [same, nothing] at member
      exact List.not_mem_nil member

/-- A sign of three bytes lacks its last one: the offset is that of its first byte. -/
theorem readSource_wellFormed_truncated :
    ∃ tree : FileTree, tree = ⟨[(["a.py"], .file [0x23, 0x20, 0xE2, 0x82, 0x0A])], []⟩ ∧
      tree.read "a.py" = .ok [0x23, 0x20, 0xE2, 0x82, 0x0A] ∧
      ¬ Utf8.WellFormed [0x23, 0x20, 0xE2, 0x82, 0x0A] ∧
      tree.readSource "a.py" = .error (.validation
        "a.py is not valid UTF-8 (invalid byte at offset 2)" none (some "UTF-8") none) ∧
      scanFiles ⟨.default, .default⟩ tree ["a.py", "b.py"] =
        scanFiles ⟨.default, .default⟩ tree ["b.py"] := by
  have stands : FileTree.read ⟨[(["a.py"], .file [0x23, 0x20, 0xE2, 0x82, 0x0A])], []⟩ "a.py" =
      .ok [0x23, 0x20, 0xE2, 0x82, 0x0A] := by
    have steps : Step.ofPath? "a.py" = some [.enter "a.py"] := by decide +kernel
    simp [read, find, locate, steps, follow, lookup]
  have illFormed : ¬ Utf8.WellFormed [0x23, 0x20, 0xE2, 0x82, 0x0A] := by decide +kernel
  have longest : IsGreatest {length | length ≤ [0x23, 0x20, 0xE2, 0x82, 0x0A].length ∧
      Utf8.WellFormed ([0x23, 0x20, 0xE2, 0x82, 0x0A].take length)} 2 := by
    refine ⟨by decide +kernel, fun length other => ?_⟩
    have bounded : ∀ length ≤ 5,
        Utf8.WellFormed ([0x23, 0x20, 0xE2, 0x82, 0x0A].take length) → length ≤ 2 := by
      decide +kernel
    exact bounded length other.1 other.2
  obtain ⟨-, -, refused⟩ := readSource_wellFormed stands
  obtain ⟨⟨offset, greatest, message⟩, scanned⟩ := refused illFormed
  obtain rfl := greatest.unique longest
  exact ⟨_, rfl, stands, illFormed, message, (scanned _).2.1 [] ["b.py"]⟩

end MarkerReport.FileTree
