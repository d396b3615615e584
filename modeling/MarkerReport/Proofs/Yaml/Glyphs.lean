import Mathlib.Tactic.Tauto
import MarkerReport.Yaml.Print

/-! # Glyphs of printed text

A text of printable characters becomes glyphs one by one: none of them is refused or replaced on the
way. The readers of the parts of a document are followed from place to place through such a text;
`MarkerReport.Yaml.Place.glyphs` is what stands there.
-/

namespace MarkerReport.Yaml

/-- A place in a stream. -/
structure Place where
  index : Nat
  line : Nat
  column : Nat

namespace Place

/-- The place behind a character. -/
def next (place : Place) (c : Char) : Place :=
  if isBreak c then ⟨place.index + 1, place.line + 1, 0⟩
  else ⟨place.index + 1, place.line, place.column + 1⟩

/-- The place behind a text. -/
def after (place : Place) (text : List Char) : Place := text.foldl next place

/-- A character at a place. -/
def glyph (place : Place) (c : Char) : Glyph := ⟨c, place.index, place.line, place.column⟩

/-- The characters of a text from a place on. -/
def glyphs (place : Place) : List Char → List Glyph
  | [] => []
  | c :: rest => place.glyph c :: (place.next c).glyphs rest

variable (place : Place) (c : Char) (front back : List Char)

@[simp] theorem glyph_char : (place.glyph c).char = c := rfl

@[simp] theorem glyph_index : (place.glyph c).index = place.index := rfl

@[simp] theorem glyph_line : (place.glyph c).line = place.line := rfl

@[simp] theorem glyph_column : (place.glyph c).column = place.column := rfl

@[simp] theorem glyph_isBreak : (place.glyph c).isBreak = isBreak c := rfl

@[simp] theorem glyph_isBlank : (place.glyph c).isBlank = isBlank c := rfl

@[simp] theorem after_nil : place.after [] = place := rfl

@[simp] theorem after_cons : place.after (c :: back) = (place.next c).after back := rfl

/-- The place after two texts is the one after the second, from the one after the first. -/
@[simp] theorem after_append : place.after (front ++ back) = (place.after front).after back :=
  List.foldl_append

@[simp] theorem glyphs_nil : place.glyphs [] = [] := rfl

@[simp] theorem glyphs_cons :
    place.glyphs (c :: back) = place.glyph c :: (place.next c).glyphs back := rfl

/-- A text has one glyph for each character. -/
@[simp] theorem length_glyphs (text : List Char) : (place.glyphs text).length = text.length := by
  induction text generalizing place with
  | nil => rfl
  | cons c rest ih => simp [ih]

variable {c}

/-- A line break leads to the first column. -/
theorem column_next_of_break (ends : isBreak c) : (place.next c).column = 0 := by
  simp [next, ends]

/-- Any other character leads one column further on the same line. -/
theorem next_of_not_break (inLine : isBreak c = false) :
    place.next c = ⟨place.index + 1, place.line, place.column + 1⟩ := by
  simp [next, inLine]

/-- Behind a character other than a break a place is within its line. -/
theorem column_next_pos (inLine : isBreak c = false) : 0 < (place.next c).column := by
  simp [next, inLine]

/-- A text without breaks leads as many columns further on the same line. -/
theorem after_of_not_break {text : List Char} (inLine : ∀ c ∈ text, isBreak c = false) :
    place.after text =
      ⟨place.index + text.length, place.line, place.column + text.length⟩ := by
  induction text generalizing place with
  | nil => rfl
  | cons c rest ih =>
      obtain ⟨first, later⟩ := List.forall_mem_cons.mp inLine
      rw [after_cons, ih _ later, next_of_not_break place first, List.length_cons]
      simp only [mk.injEq, true_and]
      omega

end Place

section Printable

variable {c : Char}

/-- What may be printed may be read. -/
theorem isAllowed_of_isPrintable (printable : isPrintable c) : isAllowed c := by
  simp only [isPrintable, isAllowed, Bool.or_eq_true, Bool.and_eq_true] at printable ⊢
  tauto

/-- A printable character is none that is not. -/
theorem ne_of_isPrintable {other : Char} (printable : isPrintable c)
    (unprintable : isPrintable other = false) : c ≠ other := by
  rintro rfl
  rw [printable] at unprintable
  cases unprintable

theorem ne_return_of_isPrintable (printable : isPrintable c) : c ≠ '\r' :=
  ne_of_isPrintable printable (by decide)

theorem ne_nextLine_of_isPrintable (printable : isPrintable c) : c ≠ '\u0085' :=
  ne_of_isPrintable printable (by decide)

theorem ne_tab_of_isPrintable (printable : isPrintable c) : c ≠ '\t' :=
  ne_of_isPrintable printable (by decide)

/-- The only blank that is written as it is is the space. -/
theorem isBlank_of_isPrintable (printable : isPrintable c) (space : c ≠ ' ') :
    isBlank c = false := by
  simp [isBlank, space, ne_tab_of_isPrintable printable]

theorem ne_blank_of_isBreak (ends : isBreak c) : c ≠ ' ' ∧ c ≠ '\t' := by
  constructor
  · rintro rfl
    cases ends
  · rintro rfl
    cases ends

/-- A text that needs no escapes is printable. -/
theorem isPrintable_of_needsEscape {text : List Char} (clear : needsEscape text = false) :
    ∀ c ∈ text, isPrintable c := by
  simp only [needsEscape, Bool.or_eq_false_iff, List.any_eq_false] at clear
  intro c member
  simpa using clear.1 c member

/-- The glyphs of a printable text are its characters, each with the place it stands at. -/
theorem ofText_eq_glyphs {text : List Char} (printable : ∀ c ∈ text, isPrintable c)
    (place : Place) :
    Glyph.ofText place.index place.line place.column text = place.glyphs text := by
  induction text generalizing place with
  | nil => rw [Glyph.ofText, Place.glyphs_nil]
  | cons c rest ih =>
      obtain ⟨first, later⟩ := List.forall_mem_cons.mp printable
      have return_ := ne_return_of_isPrintable first
      have nextLine := ne_nextLine_of_isPrintable first
      rw [Glyph.ofText.eq_3 _ _ _ _ _ fun _ same _ => return_ same]
      have replaced : (c == '\r' || c == '\u0085') = false := by simp [return_, nextLine]
      rw [replaced, Place.glyphs_cons, ← ih later]
      cases ends : isBreak c with
      | true => simp [Place.next, ends, Place.glyph]
      | false => simp [Place.next, ends, Place.glyph]

/-- The glyphs of a printable text. -/
theorem glyphs?_of_printable {text : List Char} (printable : ∀ c ∈ text, isPrintable c) :
    glyphs? text = some ((⟨0, 0, 0⟩ : Place).glyphs text) := by
  have allowed : text.all isAllowed = true :=
    List.all_eq_true.mpr fun c member => isAllowed_of_isPrintable (printable c member)
  rw [glyphs?, if_pos allowed, ← ofText_eq_glyphs printable]

end Printable

end MarkerReport.Yaml
