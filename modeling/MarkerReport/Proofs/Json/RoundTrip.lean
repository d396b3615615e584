import Mathlib.Data.List.Forall2
import MarkerReport.Proofs.Json.Grammar
import MarkerReport.Report.Render

/-! # Reports that are read back

The printed form of a value is a document with that value: the layout puts nothing but blanks
between the tokens, and each escape stands for the character it was made from. A report is printed
from a value that holds the root and the items, so reading it gives them back
(`MarkerReport.ReportLayout.decode?_render`).
-/

namespace MarkerReport.Json

open Yaml (hexValue?)

/-- A hexadecimal digit is read back as its value. -/
theorem hexValue?_hexDigit : ∀ n < 16, hexValue? (hexDigit n) = some n := by decide

/-- An escape stands for the character it was made from. -/
theorem charAt_escape (c : Char) (rest : List Char) : CharAt (escape c ++ rest) c rest := by
  unfold escape
  split
  · subst c; exact .short rfl
  split
  · subst c; exact .short rfl
  split
  · subst c; exact .short rfl
  split
  · subst c; exact .short rfl
  split
  · subst c; exact .short rfl
  split
  · subst c; exact .short rfl
  split
  · subst c; exact .short rfl
  rename_i quote backslash _ _ _ _ _
  split
  · rename_i control
    have code : 16 * (16 * (16 * 0 + 0) + c.toNat / 16) + c.toNat % 16 = c.toNat := by omega
    have zero : hexValue? '0' = some 0 := by decide
    have high := hexValue?_hexDigit (c.toNat / 16) (by omega)
    have low := hexValue?_hexDigit (c.toNat % 16) (by omega)
    have read := code ▸ @CodeAt.digits _ _ _ _ _ _ _ _ rest zero zero high low
    have stands := CharAt.code read c.valid
    rwa [Char.ofNat_toNat] at stands
  · exact .plain ‹_› quote backslash

/-- An escaped text and the quote behind it stand as a string of that text. -/
theorem stringAt_flatMap_escape (text rest : List Char) :
    StringAt (text.flatMap escape ++ '"' :: rest) text rest := by
  induction text with
  | nil => exact .close
  | cons c text ih =>
      rw [List.flatMap_cons, List.append_assoc]
      exact .char (charAt_escape c _) ih

/-- The decimal digits of a positive number have no leading zero, as the grammar asks. -/
theorem head?_toDigits {n : Nat} (positive : 0 < n) : (Nat.toDigits 10 n).head? ≠ some '0' := by
  induction n using Nat.strongRecOn with
  | ind n ih =>
      by_cases small : n < 10
      · rw [Nat.toDigits_of_lt_base small]
        simp
        omega
      · rw [Nat.toDigits_of_base_le (by decide) (by omega), List.head?_append_of_ne_nil _
          Nat.toDigits_ne_nil]
        exact ih (n / 10) (by omega) (by omega)

/-- The decimal digits of a number stand as that number before anything but a digit. -/
theorem numberAt_toDigits (n : Nat) {rest : List Char} (ends : ∀ c ∈ rest.head?, ¬ c.isDigit) :
    NumberAt (Nat.toDigits 10 n ++ rest) n rest := by
  refine ⟨⟨_, rfl, Nat.toDigits_ne_nil, fun c member => ?_, fun zero => ?_, ?_⟩, ends⟩
  · exact Nat.isDigit_of_mem_toDigits (by decide) (by decide) member
  · obtain rfl | positive := Nat.eq_zero_or_pos n
    · rfl
    · exact (head?_toDigits positive zero).elim
  · exact Nat.ofDigitChars_ten_toDigits.symm

theorem Blanks.refl (text : List Char) : Blanks text text := ⟨[], rfl, by simp⟩

/-- The break and the indentation between two parts are blank space. -/
theorem blanks_newLine (level : Nat) (rest : List Char) : Blanks (newLine level ++ rest) rest := by
  refine ⟨newLine level, rfl, fun c member => ?_⟩
  obtain rfl | blank := List.mem_cons.mp member
  · rfl
  · rw [List.eq_of_mem_replicate blank]
    rfl

/-- What follows an element continues no number: it is a comma, a break or a bracket. -/
theorem not_isDigit_head?_printElements (level : Nat) (elements : List Value) (rest : List Char) :
    ∀ c ∈ (printElements level elements ++ rest).head?, ¬ c.isDigit := by
  cases elements <;> simp [printElements, newLine]

/-- What follows a member continues no number. -/
theorem not_isDigit_head?_printMembers (level : Nat) (members : List (String × Value))
    (rest : List Char) : ∀ c ∈ (printMembers level members ++ rest).head?, ¬ c.isDigit := by
  cases members <;> simp [printMembers, newLine]

/-- A printed member stands, its name quoted, wherever its printed value stands. -/
theorem stands_member (key : String) {level : Nat} {value : Value} {rest : List Char}
    (stands : Stands (.value value) (value.print level ++ rest) rest) :
    Stands (.member key value)
      (newLine level ++ (quote key ++ ([':', ' '] ++ (value.print level ++ rest)))) rest := by
  have name := stringAt_flatMap_escape key.toList (':' :: ' ' :: (value.print level ++ rest))
  have member := Stands.member (blanks_newLine level _) name (.refl _)
    ⟨[' '], rfl, List.forall_mem_singleton.mpr rfl⟩ stands
  rw [String.ofList_toList] at member
  simpa [quote] using member

mutual

/-- The printed form of a value stands for it. -/
theorem stands_print (level : Nat) (rest : List Char) (ends : ∀ c ∈ rest.head?, ¬ c.isDigit) :
    (value : Value) → Stands (.value value) (value.print level ++ rest) rest
  | .number n => by
      rw [Value.print]
      exact .number (numberAt_toDigits n ends)
  | .string text => by
      have content := Stands.string (stringAt_flatMap_escape text.toList rest)
      rw [String.ofList_toList] at content
      simpa [Value.print, quote] using content
  | .array [] => by
      rw [Value.print]
      exact .emptyArray (.refl _)
  | .array (first :: later) => by
      have element := stands_print (level + 1) (printElements level later ++ rest)
        (not_isDigit_head?_printElements level later rest) first
      have inside := stands_printElements level rest later (blanks_newLine (level + 1) _) element
      simpa [Value.print] using Stands.array inside
  | .object [] => by
      rw [Value.print]
      exact .emptyObject (.refl _)
  | .object ((key, value) :: later) => by
      have member := stands_member key (stands_print (level + 1)
        (printMembers level later ++ rest) (not_isDigit_head?_printMembers level later rest) value)
      have inside := stands_printMembers level rest later member
      simpa [Value.print] using Stands.object inside

/-- The printed elements of an array stand behind its first one, by induction on the later ones. -/
theorem stands_printElements (level : Nat) (rest : List Char) :
    (later : List Value) → {first : Value} → {text start : List Char} → Blanks text start →
      Stands (.value first) start (printElements level later ++ rest) →
      Stands (.elements (first :: later)) text rest
  | [], _, _, _, before, first => by
      rw [printElements, List.append_assoc] at first
      exact .lastElement before first (blanks_newLine level _)
  | element :: later, _, _, _, before, first => by
      have second := stands_print (level + 1) (printElements level later ++ rest)
        (not_isDigit_head?_printElements level later rest) element
      have others := stands_printElements level rest later (blanks_newLine (level + 1) _) second
      refine .element before first (.refl _) ?_
      simpa using others

/-- The printed members of an object stand behind its first one, by induction on the later ones. -/
theorem stands_printMembers (level : Nat) (rest : List Char) :
    (later : List (String × Value)) → {key : String} → {value : Value} → {text : List Char} →
      Stands (.member key value) text (printMembers level later ++ rest) →
      Stands (.members ((key, value) :: later)) text rest
  | [], _, _, _, first => by
      rw [printMembers, List.append_assoc] at first
      exact .lastMember first (blanks_newLine level _)
  | (key, value) :: later, _, _, _, first => by
      have second := stands_member key (stands_print (level + 1)
        (printMembers level later ++ rest) (not_isDigit_head?_printMembers level later rest) value)
      have others := stands_printMembers level rest later second
      refine .members first (.refl _) ?_
      simpa using others

end

/-- A printed value is a document of itself, blank space behind it included. -/
theorem isDocument_print_append (value : Value) {rest : List Char} (blank : ∀ c ∈ rest, isBlank c) :
    IsDocument (value.print 0 ++ rest) value := by
  refine ⟨_, rest, .refl _, stands_print 0 rest (fun c first => ?_) value, rest, by simp, blank⟩
  exact fun digit => not_isBlank_of_isDigit digit (blank c (List.mem_of_head? first))

/-- A printed object ends with its closing brace. -/
theorem exists_printMembers_eq (level : Nat) (members : List (String × Value)) :
    ∃ front, printMembers level members = front ++ ['\x7d'] := by
  induction members with
  | nil => exact ⟨newLine level, printMembers.eq_1 level⟩
  | cons member later ih =>
      obtain ⟨key, value⟩ := member
      obtain ⟨front, later⟩ := ih
      rw [printMembers, later, ← List.append_assoc]
      exact ⟨_, rfl⟩

/-- A text stands for one value at most, because the decoder gives one. -/
theorem IsDocument.unique {text : List Char} {value other : Value}
    (document : IsDocument text value)
    (another : IsDocument text other) : other = value := by
  have read := decode?_eq_some_iff.mpr document
  rw [decode?_eq_some_iff.mpr another] at read
  exact Option.some.inj read

/-- The member of an object under a key. -/
def Value.member? (key : String) : Value → Option Value
  | .object members => members.lookup key
  | _ => none

/-- The text of a string. -/
def Value.text? : Value → Option String
  | .string text => some text
  | _ => none

/-- The number that a value is. -/
def Value.number? : Value → Option Nat
  | .number n => some n
  | _ => none

/-- The elements of an array. -/
def Value.elements? : Value → Option (List Value)
  | .array elements => some elements
  | _ => none

/-- The scope in an item, if the item is well-formed: without the key it has none. -/
def scope? (value : Value) : Option (Option String) :=
  match value.member? "scope" with
  | none => some none
  | some scope => scope.text?.map some

/-- Reads an item. -/
def item? (value : Value) : Option Item := do
  let file ← (← value.member? "file_path").text?
  let line ← (← value.member? "line").number?
  let scope ← scope? value
  let kind ← (← value.member? "kind").text?
  let text ← (← value.member? "text").text?
  some { file, line, scope, kind, text }

/-- What a report says. -/
structure Summary where
  root : String
  found : Nat
  items : List Item
deriving Repr, DecidableEq

/-- Reads a report. -/
def summary? (value : Value) : Option Summary := do
  let root ← (← value.member? "scanned_directory").text?
  let found ← (← value.member? "found").number?
  let elements ← (← value.member? "items").elements?
  let items ← elements.mapM item?
  some { root, found, items }

/-- The scope member of an item's object is there exactly when the item has a scope. -/
theorem member?_scope_ofItem (item : Item) :
    (ofItem item).member? "scope" = item.scope.map .string := by
  cases scope : item.scope <;> simp [ofItem, Value.member?, scope, List.lookup_cons]

/-- An item is read back from its object. -/
theorem item?_ofItem (item : Item) : item? (ofItem item) = some item := by
  obtain ⟨file, line, scope, kind, text⟩ := item
  cases scope <;>
    simp [item?, scope?, ofItem, Value.member?, Value.text?, Value.number?, List.lookup_cons]

/-- A list of items is read back from its objects, item by item. -/
theorem mapM_item?_ofItem (items : List Item) :
    (items.map ofItem).mapM item? = some items := by
  induction items with
  | nil => rfl
  | cons item later ih => simp [item?_ofItem, ih]

/-- The root, the count and the items are read back from the object of a report. -/
theorem summary?_ofReport (root : String) (items : List Item) :
    summary? (ofReport root items) = some ⟨root, items.length, items⟩ := by
  have read := mapM_item?_ofItem items
  simp [summary?, ofReport, Value.member?, Value.text?, Value.number?, Value.elements?,
    List.lookup_cons, read]

/-- A printed report ends with its closing brace, so the newline behind it is the only one. -/
theorem getLast?_print_ofReport (root : String) (items : List Item) :
    ((ofReport root items).print 0).getLast? = some '\x7d' := by
  obtain ⟨front, printed⟩ := exists_printMembers_eq 0
    [("found", .number items.length), ("items", .array (items.map ofItem))]
  rw [ofReport, Value.print, printed, ← List.append_assoc, List.getLast?_append_of_ne_nil]
  · rfl
  · simp

end MarkerReport.Json

namespace MarkerReport.ReportLayout

open Json

/-- A JSON report is a document and a line feed. Read back, it names the root, counts the items and
lists them in order; an item without a scope is written without the key. -/
theorem decode?_render (withContext : Bool) (root : String) (items : List Item) :
    ∃ document value elements,
      render ⟨.json, withContext⟩ root items = document ++ ['\n'] ∧
      document.getLast? = some '\x7d' ∧
      (∀ other, IsDocument document other ↔ other = value) ∧
      decode? (render ⟨.json, withContext⟩ root items) = some value ∧
      summary? value = some ⟨root, items.length, items⟩ ∧
      value.member? "items" = some (.array elements) ∧
      List.Forall₂ (fun item element => element.member? "scope" = none ↔ item.scope = none)
        items elements := by
  have document := isDocument_print_append (ofReport root items) (List.forall_mem_nil _)
  rw [List.append_nil] at document
  refine ⟨_, ofReport root items, items.map ofItem, rfl, getLast?_print_ofReport root items,
    fun other => ⟨document.unique, fun same => same ▸ document⟩, ?_, summary?_ofReport root items,
    rfl, ?_⟩
  · exact decode?_eq_some_iff.mpr
      (isDocument_print_append _ (List.forall_mem_singleton.mpr rfl))
  · rw [List.forall₂_map_right_iff, List.forall₂_same]
    intro item _
    rw [member?_scope_ofItem, Option.map_eq_none_iff]

end MarkerReport.ReportLayout
