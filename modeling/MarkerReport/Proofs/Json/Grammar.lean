import Mathlib.Data.List.TakeWhile
import Mathlib.Tactic.Common
import MarkerReport.Json.Value
import MarkerReport.Yaml.Scalar

/-! # The grammar of JSON documents

A document is a value with blanks around it. The grammar says which texts stand for which value,
and a decoder reads them. A decoder that is given a document in the grammar reads its value, and
reads nothing else: `MarkerReport.Json.decode?_eq_some_iff`. So a text stands for at most one value.

Only the values that `MarkerReport.Json.Value` has are covered. All ways of writing them are: blanks
between any two tokens, every escape in a string, codes as surrogate pairs. Each relation of the
grammar holds of a text, what stands at its start, and the text behind that.
-/

namespace MarkerReport.Json

open Yaml (hexValue?)

/-- Whether a character may stand between tokens. -/
def isBlank (c : Char) : Bool := c == ' ' || c == '\t' || c == '\n' || c == '\r'

/-- Any number of blanks. -/
def Blanks (text rest : List Char) : Prop := ∃ gap, text = gap ++ rest ∧ ∀ c ∈ gap, isBlank c

/-- A number without a sign: digits, the first of which is zero only if it is the only one. -/
structure NumberAt (text : List Char) (n : Nat) (rest : List Char) : Prop where
  exists_digits : ∃ digits, text = digits ++ rest ∧ digits ≠ [] ∧ (∀ c ∈ digits, c.isDigit) ∧
    (digits.head? = some '0' → digits = ['0']) ∧ n = Nat.ofDigitChars 10 digits 0
  ends : ∀ c ∈ rest.head?, ¬ c.isDigit

/-- The character that a letter behind a backslash stands for. -/
def shortEscape? : Char → Option Char
  | '"' => some '"'
  | '\\' => some '\\'
  | '/' => some '/'
  | 'b' => some '\x08'
  | 'f' => some '\x0c'
  | 'n' => some '\n'
  | 'r' => some '\r'
  | 't' => some '\t'
  | _ => none

/-- A code of four hexadecimal digits. -/
inductive CodeAt : List Char → Nat → List Char → Prop
  | digits {a b c d : Char} {p q r s : Nat} {rest : List Char} (first : hexValue? a = some p)
      (second : hexValue? b = some q) (third : hexValue? c = some r)
      (fourth : hexValue? d = some s) :
      CodeAt (a :: b :: c :: d :: rest) (16 * (16 * (16 * p + q) + r) + s) rest

/-- The character with a code beyond those of four digits, which two surrogates stand for. -/
def joined (high low : Nat) : Char :=
  Char.ofNat (0x10000 + 0x400 * (high - 0xD800) + (low - 0xDC00))

/-- A character of a string. -/
inductive CharAt : List Char → Char → List Char → Prop
  | plain {c : Char} {rest : List Char} (printable : ¬ c.toNat < 32) (quote : c ≠ '"')
      (backslash : c ≠ '\\') : CharAt (c :: rest) c rest
  | short {letter c : Char} {rest : List Char} (known : shortEscape? letter = some c) :
      CharAt ('\\' :: letter :: rest) c rest
  | code {text rest : List Char} {code : Nat} (read : CodeAt text code rest)
      (valid : code.isValidChar) : CharAt ('\\' :: 'u' :: text) (Char.ofNat code) rest
  | pair {text between rest : List Char} {high low : Nat}
      (first : CodeAt text high ('\\' :: 'u' :: between))
      (isHigh : 0xD800 ≤ high ∧ high < 0xDC00) (second : CodeAt between low rest)
      (isLow : 0xDC00 ≤ low ∧ low < 0xE000) :
      CharAt ('\\' :: 'u' :: text) (joined high low) rest

/-- A string behind its opening quote. -/
inductive StringAt : List Char → List Char → List Char → Prop
  | close {rest : List Char} : StringAt ('"' :: rest) [] rest
  | char {text between rest : List Char} {c : Char} {later : List Char}
      (first : CharAt text c between) (others : StringAt between later rest) :
      StringAt text (c :: later) rest

/-- A part of a document. -/
inductive Part where
  | value (value : Value)
  /-- The elements of an array that has any, with what closes it. -/
  | elements (elements : List Value)
  | member (key : String) (value : Value)
  /-- The members of an object that has any, with what closes it. -/
  | members (members : List (String × Value))

/-- A part of a document. -/
inductive Stands : Part → List Char → List Char → Prop
  | number {text rest : List Char} {n : Nat} (read : NumberAt text n rest) :
      Stands (.value (.number n)) text rest
  | string {text content rest : List Char} (read : StringAt text content rest) :
      Stands (.value (.string (String.ofList content))) ('"' :: text) rest
  | emptyArray {text rest : List Char} (gap : Blanks text (']' :: rest)) :
      Stands (.value (.array [])) ('[' :: text) rest
  | array {text rest : List Char} {elements : List Value}
      (inside : Stands (.elements elements) text rest) :
      Stands (.value (.array elements)) ('[' :: text) rest
  | emptyObject {text rest : List Char} (gap : Blanks text ('\x7d' :: rest)) :
      Stands (.value (.object [])) ('\x7b' :: text) rest
  | object {text rest : List Char} {members : List (String × Value)}
      (inside : Stands (.members members) text rest) :
      Stands (.value (.object members)) ('\x7b' :: text) rest
  | lastElement {text start stop rest : List Char} {value : Value} (before : Blanks text start)
      (element : Stands (.value value) start stop) (after : Blanks stop (']' :: rest)) :
      Stands (.elements [value]) text rest
  | element {text start stop more rest : List Char} {value : Value} {later : List Value}
      (before : Blanks text start) (element : Stands (.value value) start stop)
      (after : Blanks stop (',' :: more)) (others : Stands (.elements later) more rest) :
      Stands (.elements (value :: later)) text rest
  | member {text start key stop behind value rest : List Char} {content : Value}
      (before : Blanks text ('"' :: start)) (name : StringAt start key stop)
      (colon : Blanks stop (':' :: behind)) (gap : Blanks behind value)
      (read : Stands (.value content) value rest) :
      Stands (.member (String.ofList key) content) text rest
  | lastMember {text stop rest : List Char} {key : String} {value : Value}
      (member : Stands (.member key value) text stop) (after : Blanks stop ('\x7d' :: rest)) :
      Stands (.members [(key, value)]) text rest
  | members {text stop more rest : List Char} {key : String} {value : Value}
      {later : List (String × Value)} (member : Stands (.member key value) text stop)
      (after : Blanks stop (',' :: more)) (others : Stands (.members later) more rest) :
      Stands (.members ((key, value) :: later)) text rest

/-- Whether a text is a document with the given value. -/
def IsDocument (text : List Char) (value : Value) : Prop :=
  ∃ start stop, Blanks text start ∧ Stands (.value value) start stop ∧ Blanks stop []

/-- Skips blanks. -/
def skip (text : List Char) : List Char := text.dropWhile isBlank

/-- Reads a number. -/
def number? (text : List Char) : Option (Nat × List Char) :=
  let digits := text.takeWhile Char.isDigit
  if digits = [] ∨ digits.head? = some '0' ∧ digits ≠ ['0'] then none
  else some (Nat.ofDigitChars 10 digits 0, text.dropWhile Char.isDigit)

/-- Reads a code of four hexadecimal digits. -/
def code? : List Char → Option (Nat × List Char)
  | a :: b :: c :: d :: rest =>
      match hexValue? a, hexValue? b, hexValue? c, hexValue? d with
      | some p, some q, some r, some s => some (16 * (16 * (16 * p + q) + r) + s, rest)
      | _, _, _, _ => none
  | _ => none

/-- Reads the code of the second of two surrogates, behind the code of the first. -/
def lowCode? : List Char → Option (Nat × List Char)
  | '\\' :: 'u' :: text => code? text
  | _ => none

/-- Reads a character that is written as its code. -/
def coded? (text : List Char) : Option (Char × List Char) :=
  match code? text with
  | none => none
  | some (code, rest) =>
      if code.isValidChar then some (Char.ofNat code, rest)
      else if 0xD800 ≤ code ∧ code < 0xDC00 then
        match lowCode? rest with
        | none => none
        | some (low, rest) =>
            if 0xDC00 ≤ low ∧ low < 0xE000 then some (joined code low, rest) else none
      else none

/-- Reads a character behind a backslash. -/
def escaped? : List Char → Option (Char × List Char)
  | [] => none
  | letter :: rest =>
      if letter = 'u' then coded? rest else (shortEscape? letter).map fun c => (c, rest)

/-- Reads a character of a string. -/
def char? : List Char → Option (Char × List Char)
  | [] => none
  | c :: rest =>
      if c = '\\' then escaped? rest
      else if c = '"' ∨ c.toNat < 32 then none
      else some (c, rest)

/-- The reader of four hexadecimal digits reads just the codes of the grammar. -/
theorem codeAt_iff {text rest : List Char} {code : Nat} :
    CodeAt text code rest ↔ code? text = some (code, rest) := by
  constructor
  · rintro ⟨first, second, third, fourth⟩
    simp [code?, first, second, third, fourth]
  · intro read
    unfold code? at read
    split at read
    · split at read
      · obtain ⟨rfl, rfl⟩ := Prod.mk.inj (Option.some.inj read)
        exact .digits ‹_› ‹_› ‹_› ‹_›
      · cases read
    · cases read

/-- Reading a code consumes some of the text. -/
theorem CodeAt.length_lt {text rest : List Char} {code : Nat} (read : CodeAt text code rest) :
    rest.length < text.length := by
  cases read
  simp only [List.length_cons]
  omega

/-- Half of a surrogate pair is no character by itself, which is why the two ways to write a
character by its code never overlap. -/
theorem not_isValidChar_of_surrogate {code : Nat} (surrogate : 0xD800 ≤ code ∧ code < 0xE000) :
    ¬ code.isValidChar := by
  simp only [Nat.isValidChar]
  omega

/-- A character that stands in a string by the grammar is the one the reader returns. -/
theorem char?_of_charAt {text rest : List Char} {c : Char} (stands : CharAt text c rest) :
    char? text = some (c, rest) := by
  cases stands with
  | plain printable quote backslash => simp [char?, printable, quote, backslash]
  | @short letter _ _ known =>
      have notCode : letter ≠ 'u' := by
        rintro rfl
        cases known
      simp [char?, escaped?, notCode, known]
  | code read valid => simp [char?, escaped?, coded?, codeAt_iff.mp read, valid]
  | pair first isHigh second isLow =>
      have invalid := not_isValidChar_of_surrogate ⟨isHigh.1, by omega⟩
      simp [char?, escaped?, coded?, codeAt_iff.mp first, invalid, isHigh, lowCode?,
        codeAt_iff.mp second, isLow]

/-- What the reader makes of one code, or of two for a surrogate pair, is a character the grammar
allows there. -/
theorem charAt_of_coded? {text rest : List Char} {c : Char} (read : coded? text = some (c, rest)) :
    CharAt ('\\' :: 'u' :: text) c rest := by
  unfold coded? at read
  cases first : code? text with
  | none => simp [first] at read
  | some found =>
      obtain ⟨code, behind⟩ := found
      simp only [first] at read
      split at read
      · obtain ⟨rfl, rfl⟩ := Prod.mk.inj (Option.some.inj read)
        exact .code (codeAt_iff.mpr first) ‹_›
      split at read
      · rename_i isHigh
        unfold lowCode? at read
        split at read
        · cases read
        rename_i low second
        split at second
        · split at read
          · obtain ⟨rfl, rfl⟩ := Prod.mk.inj (Option.some.inj read)
            exact .pair (codeAt_iff.mpr first) isHigh (codeAt_iff.mpr second) ‹_›
          · cases read
        · cases second
      · cases read

/-- A character the reader returns stands there by the grammar. -/
theorem charAt_of_char? {text rest : List Char} {c : Char} (read : char? text = some (c, rest)) :
    CharAt text c rest := by
  unfold char? at read
  split at read
  · cases read
  rename_i first behind
  split at read
  · subst first
    unfold escaped? at read
    split at read
    · cases read
    split at read
    · subst_vars
      exact charAt_of_coded? read
    · obtain ⟨found, known, same⟩ := Option.map_eq_some_iff.mp read
      obtain ⟨rfl, rfl⟩ := Prod.mk.inj same
      exact .short known
  split at read
  · cases read
  · rename_i backslash special
    obtain ⟨rfl, rfl⟩ := Prod.mk.inj (Option.some.inj read)
    rw [not_or] at special
    exact .plain special.2 special.1 backslash

/-- Reading a character consumes some of the text. -/
theorem CharAt.length_lt {text rest : List Char} {c : Char} (stands : CharAt text c rest) :
    rest.length < text.length := by
  cases stands with
  | plain => simp
  | short =>
      simp only [List.length_cons]
      omega
  | code read _ =>
      have := read.length_lt
      simp only [List.length_cons]
      omega
  | pair first _ second _ =>
      have := first.length_lt
      have := second.length_lt
      simp only [List.length_cons] at *
      omega

/-- Reads a string behind its opening quote. -/
def string? (text : List Char) : Option (List Char × List Char) :=
  if text.head? = some '"' then some ([], text.drop 1)
  else
    match read : char? text with
    | none => none
    | some (c, between) =>
        have : between.length < text.length := (charAt_of_char? read).length_lt
        match string? between with
        | none => none
        | some (later, rest) => some (c :: later, rest)
termination_by text.length

/-- No character of a string starts with the quote that ends the string. -/
theorem CharAt.head?_ne_quote {text rest : List Char} {c : Char} (stands : CharAt text c rest) :
    text.head? ≠ some '"' := by
  cases stands with
  | plain _ quote _ => simpa using quote
  | _ => simp

/-- The reader of strings reads just the strings of the grammar. -/
theorem stringAt_iff {text content rest : List Char} :
    StringAt text content rest ↔ string? text = some (content, rest) := by
  constructor
  · intro stands
    induction stands with
    | close => simp [string?]
    | char first others ih =>
        rw [string?, if_neg first.head?_ne_quote]
        split
        · rename_i missing
          simp [char?_of_charAt first] at missing
        · rename_i c between read
          obtain ⟨rfl, rfl⟩ :=
            Prod.mk.inj (Option.some.inj ((char?_of_charAt first).symm.trans read))
          simp [ih]
  · intro read
    fun_induction string? text generalizing content with
    | case1 text opening =>
        obtain ⟨rfl, rfl⟩ := Prod.mk.inj (Option.some.inj read)
        obtain ⟨later, rfl⟩ := List.head?_eq_some_iff.mp opening
        exact .close
    | case2 => cases read
    | case3 => cases read
    | case4 text _ c between first _ later after others ih =>
        obtain ⟨rfl, rfl⟩ := Prod.mk.inj (Option.some.inj read)
        exact .char (charAt_of_char? first) (ih others)

/-- Reading a string consumes some of the text. -/
theorem StringAt.length_lt {text content rest : List Char} (stands : StringAt text content rest) :
    rest.length < text.length := by
  induction stands with
  | close => simp
  | char first others ih => exact Nat.lt_trans ih first.length_lt

mutual

/-- Reads a value. -/
def value? : (depth : Nat) → List Char → Option (Value × List Char)
  | 0, _ => none
  | _, [] => none
  | depth + 1, c :: text =>
      if c = '"' then (string? text).map fun (content, rest) => (.string (.ofList content), rest)
      else if c = '[' then
        match skip text with
        | ']' :: rest => some (.array [], rest)
        | _ => (elements? depth text).map fun (elements, rest) => (.array elements, rest)
      else if c = '\x7b' then
        match skip text with
        | '\x7d' :: rest => some (.object [], rest)
        | _ => (members? depth text).map fun (members, rest) => (.object members, rest)
      else (number? (c :: text)).map fun (n, rest) => (.number n, rest)

/-- Reads the elements of an array and what closes it. -/
def elements? : (depth : Nat) → List Char → Option (List Value × List Char)
  | 0, _ => none
  | depth + 1, text => do
      let (value, stop) ← value? depth (skip text)
      match skip stop with
      | ']' :: rest => some ([value], rest)
      | ',' :: more =>
          let (later, rest) ← elements? depth more
          some (value :: later, rest)
      | _ => none

/-- Reads a member of an object. -/
def member? : (depth : Nat) → List Char → Option ((String × Value) × List Char)
  | 0, _ => none
  | depth + 1, text =>
      match skip text with
      | '"' :: start => do
          let (key, stop) ← string? start
          match skip stop with
          | ':' :: behind =>
              let (value, rest) ← value? depth (skip behind)
              some ((.ofList key, value), rest)
          | _ => none
      | _ => none

/-- Reads the members of an object and what closes it. -/
def members? : (depth : Nat) → List Char → Option (List (String × Value) × List Char)
  | 0, _ => none
  | depth + 1, text => do
      let (member, stop) ← member? depth text
      match skip stop with
      | '\x7d' :: rest => some ([member], rest)
      | ',' :: more =>
          let (later, rest) ← members? depth more
          some (member :: later, rest)
      | _ => none

end

/-- Reads a document. -/
def decode? (text : List Char) : Option Value :=
  match value? text.length (skip text) with
  | some (value, stop) => if skip stop = [] then some value else none
  | none => none

/-- The reader of numbers reads just the numbers of the grammar. -/
theorem numberAt_iff {text rest : List Char} {n : Nat} :
    NumberAt text n rest ↔ number? text = some (n, rest) := by
  unfold number?
  constructor
  · rintro ⟨⟨digits, rfl, nonempty, all, zero, rfl⟩, ends⟩
    have taken : (digits ++ rest).takeWhile Char.isDigit = digits := by
      rw [List.takeWhile_append_of_pos (by simpa using all)]
      cases rest with
      | nil => simp
      | cons c rest => simp_all
    have dropped : (digits ++ rest).dropWhile Char.isDigit = rest := by
      rw [List.dropWhile_append_of_pos (by simpa using all)]
      cases rest with
      | nil => simp
      | cons c rest => simp_all
    simp only [taken, dropped]
    rw [if_neg]
    rintro (empty | ⟨leading, more⟩)
    · exact nonempty empty
    · exact more (zero leading)
  · intro read
    dsimp only at read
    split at read
    · cases read
    · rename_i proper
      rw [not_or, not_and, not_not] at proper
      obtain ⟨rfl, rfl⟩ := Prod.mk.inj (Option.some.inj read)
      refine ⟨⟨_, (List.takeWhile_append_dropWhile).symm, proper.1, ?_, proper.2, rfl⟩, ?_⟩
      · exact fun c member => List.mem_takeWhile_imp member
      · intro c first
        have := List.head?_dropWhile_not Char.isDigit text
        simp_all

/-- What is skipped before a value is blank space. -/
theorem blanks_skip (text : List Char) : Blanks text (skip text) :=
  ⟨text.takeWhile isBlank, List.takeWhile_append_dropWhile.symm,
    fun _ member => List.mem_takeWhile_imp member⟩

/-- Skipping blank space never lengthens the text. -/
theorem Blanks.length_le {text rest : List Char} (gap : Blanks text rest) :
    rest.length ≤ text.length := by
  obtain ⟨gap, rfl, -⟩ := gap
  simp

/-- Blank space that ends at no blank is all that is skipped. -/
theorem Blanks.skip_eq {text rest : List Char} (gap : Blanks text rest)
    (ends : ∀ c ∈ rest.head?, ¬ isBlank c) : skip text = rest := by
  obtain ⟨gap, rfl, blank⟩ := gap
  rw [skip, List.dropWhile_append_of_pos blank]
  cases rest with
  | nil => rfl
  | cons c rest => exact List.dropWhile_cons_of_neg (ends c rfl)

/-- Skipping stops at the first visible character. -/
theorem Blanks.skip_cons {text rest : List Char} {c : Char} (gap : Blanks text (c :: rest))
    (visible : ¬ isBlank c) : skip text = c :: rest :=
  gap.skip_eq (by simpa using visible)

theorem not_isBlank_of_isDigit {c : Char} (digit : c.isDigit) : ¬ isBlank c := by
  intro blank
  simp only [isBlank, Bool.or_eq_true, beq_iff_eq] at blank
  obtain ((rfl | rfl) | rfl) | rfl := blank <;> simp at digit

/-- A number starts with a digit. -/
theorem NumberAt.head?_isDigit {text rest : List Char} {n : Nat} (stands : NumberAt text n rest) :
    ∃ c later, text = c :: later ∧ c.isDigit := by
  obtain ⟨⟨digits, rfl, nonempty, all, -⟩, -⟩ := stands
  obtain ⟨c, later, rfl⟩ := List.exists_cons_of_ne_nil nonempty
  exact ⟨c, later ++ rest, rfl, all c (by simp)⟩

/-- Reading a number consumes some of the text. -/
theorem NumberAt.length_lt {text rest : List Char} {n : Nat} (stands : NumberAt text n rest) :
    rest.length < text.length := by
  obtain ⟨⟨digits, rfl, nonempty, -⟩, -⟩ := stands
  have := List.length_pos_iff.mpr nonempty
  rw [List.length_append]
  omega

/-- A value starts neither with a blank nor with a closing bracket. -/
theorem Stands.exists_cons {value : Value} {text rest : List Char}
    (stands : Stands (.value value) text rest) :
    ∃ c later, text = c :: later ∧ ¬ isBlank c ∧ c ≠ ']' := by
  cases stands with
  | number read =>
      obtain ⟨c, later, rfl, digit⟩ := read.head?_isDigit
      refine ⟨c, later, rfl, not_isBlank_of_isDigit digit, ?_⟩
      rintro rfl
      simp at digit
  | _ => exact ⟨_, _, rfl, by decide, by decide⟩

/-- No value starts with blank space, so skipping leads to its first character. -/
theorem Stands.skip_eq {value : Value} {text start rest : List Char} (before : Blanks text start)
    (stands : Stands (.value value) start rest) : skip text = start := by
  obtain ⟨c, later, rfl, visible, -⟩ := stands.exists_cons
  exact before.skip_cons visible

/-- Every part of a document consumes some of the text: the bound on the depth of the reader. -/
theorem Stands.length_lt {part : Part} {text rest : List Char} (stands : Stands part text rest) :
    rest.length < text.length := by
  induction stands with
  | number read => exact read.length_lt
  | string read =>
      have := read.length_lt
      simp only [List.length_cons]
      omega
  | emptyArray gap | emptyObject gap =>
      have := gap.length_le
      simp only [List.length_cons] at *
      omega
  | array _ ih | object _ ih =>
      simp only [List.length_cons]
      omega
  | lastElement before _ after ih =>
      have := before.length_le
      have := after.length_le
      simp only [List.length_cons] at *
      omega
  | element before _ after _ first later =>
      have := before.length_le
      have := after.length_le
      simp only [List.length_cons] at *
      omega
  | member before name colon gap _ ih =>
      have := before.length_le
      have := name.length_lt
      have := colon.length_le
      have := gap.length_le
      simp only [List.length_cons] at *
      omega
  | lastMember _ after ih =>
      have := after.length_le
      simp only [List.length_cons] at *
      omega
  | members _ after _ first later =>
      have := after.length_le
      simp only [List.length_cons] at *
      omega

/-- Whether the decoder reads a part at the start of a text. -/
def Part.ReadAt (depth : Nat) : Part → List Char → List Char → Prop
  | .value found, text, rest => value? depth text = some (found, rest)
  | .elements found, text, rest => elements? depth text = some (found, rest)
  | .member key found, text, rest => member? depth text = some ((key, found), rest)
  | .members found, text, rest => members? depth text = some (found, rest)

/-- An array with elements does not close at once. -/
theorem Stands.skip_ne_bracket {elements : List Value} {text rest : List Char}
    (stands : Stands (.elements elements) text rest) (after : List Char) :
    skip text ≠ ']' :: after := by
  cases stands with
  | lastElement before first _ | element before first _ _ =>
      obtain ⟨c, later, rfl, visible, open_⟩ := first.exists_cons
      rw [before.skip_cons visible]
      simp [open_]

/-- An object with members does not close at once. -/
theorem Stands.skip_ne_brace {members : List (String × Value)} {text rest : List Char}
    (stands : Stands (.members members) text rest) (after : List Char) :
    skip text ≠ '\x7d' :: after := by
  cases stands with
  | lastMember member _ | members member _ _ =>
      cases member with
      | member before _ _ _ _ =>
          rw [before.skip_cons (by decide)]
          simp

/-- A reader whose depth covers the text of a part has a level left to read it with. -/
theorem Stands.exists_succ {part : Part} {text rest : List Char} (stands : Stands part text rest)
    {depth : Nat} (enough : text.length ≤ depth + rest.length) : ∃ less, depth = less + 1 := by
  have shorter := stands.length_lt
  exact Nat.exists_eq_succ_of_ne_zero (by omega)

/-- The decoder reads what the grammar allows. Every step into a part leaves a character behind, so
the depth is enough that counts the characters. -/
theorem Stands.readAt {part : Part} {text rest : List Char} (stands : Stands part text rest)
    {depth : Nat} (enough : text.length ≤ depth + rest.length) : part.ReadAt depth text rest := by
  induction stands generalizing depth with
  | number read =>
      obtain ⟨depth, rfl⟩ := (Stands.number read).exists_succ enough
      obtain ⟨c, later, rfl, digit⟩ := read.head?_isDigit
      have quote : c ≠ '"' := by rintro rfl; simp at digit
      have bracket : c ≠ '[' := by rintro rfl; simp at digit
      have brace : c ≠ '\x7b' := by rintro rfl; simp at digit
      simp [Part.ReadAt, value?, quote, bracket, brace, numberAt_iff.mp read]
  | string read =>
      obtain ⟨depth, rfl⟩ := (Stands.string read).exists_succ enough
      simp [Part.ReadAt, value?, stringAt_iff.mp read]
  | emptyArray gap =>
      obtain ⟨depth, rfl⟩ := (Stands.emptyArray gap).exists_succ enough
      simp [Part.ReadAt, value?, gap.skip_cons (by decide : ¬ isBlank ']')]
  | emptyObject gap =>
      obtain ⟨depth, rfl⟩ := (Stands.emptyObject gap).exists_succ enough
      simp [Part.ReadAt, value?, gap.skip_cons (by decide : ¬ isBlank '\x7d')]
  | array inside ih =>
      obtain ⟨depth, rfl⟩ := (Stands.array inside).exists_succ enough
      rw [List.length_cons] at enough
      have read : elements? depth _ = _ := ih (by omega)
      simp only [Part.ReadAt, value?, read, Char.reduceEq, if_false, if_true]
      split
      · exact (inside.skip_ne_bracket _ ‹_›).elim
      · rfl
  | object inside ih =>
      obtain ⟨depth, rfl⟩ := (Stands.object inside).exists_succ enough
      rw [List.length_cons] at enough
      have read : members? depth _ = _ := ih (by omega)
      simp only [Part.ReadAt, value?, read, Char.reduceEq, if_false, if_true]
      split
      · exact (inside.skip_ne_brace _ ‹_›).elim
      · rfl
  | lastElement before first after ih =>
      obtain ⟨depth, rfl⟩ := (Stands.lastElement before first after).exists_succ enough
      have := before.length_le
      have := after.length_le
      rw [List.length_cons] at this
      have read : value? depth _ = _ := ih (by omega)
      simp [Part.ReadAt, elements?, first.skip_eq before, read,
        after.skip_cons (by decide : ¬ isBlank ']')]
  | element before first after others ih later =>
      obtain ⟨depth, rfl⟩ := (Stands.element before first after others).exists_succ enough
      have := before.length_le
      have := after.length_le
      have := first.length_lt
      have := others.length_lt
      simp only [List.length_cons] at *
      have read : value? depth _ = _ := ih (by omega)
      have readLater : elements? depth _ = _ := later (by omega)
      simp [Part.ReadAt, elements?, first.skip_eq before, read, readLater,
        after.skip_cons (by decide : ¬ isBlank ',')]
  | member before name colon gap inside ih =>
      obtain ⟨depth, rfl⟩ := (Stands.member before name colon gap inside).exists_succ enough
      have := before.length_le
      have := name.length_lt
      have := colon.length_le
      have := gap.length_le
      simp only [List.length_cons] at *
      have read : value? depth _ = _ := ih (by omega)
      simp [Part.ReadAt, member?, before.skip_cons (by decide : ¬ isBlank '"'),
        stringAt_iff.mp name, colon.skip_cons (by decide : ¬ isBlank ':'), inside.skip_eq gap, read]
  | lastMember first after ih =>
      obtain ⟨depth, rfl⟩ := (Stands.lastMember first after).exists_succ enough
      have := after.length_le
      rw [List.length_cons] at this
      have read : member? depth _ = _ := ih (by omega)
      simp [Part.ReadAt, members?, read, after.skip_cons (by decide : ¬ isBlank '\x7d')]
  | members first after others ih later =>
      obtain ⟨depth, rfl⟩ := (Stands.members first after others).exists_succ enough
      have := after.length_le
      have := first.length_lt
      have := others.length_lt
      simp only [List.length_cons] at *
      have read : member? depth _ = _ := ih (by omega)
      have readLater : members? depth _ = _ := later (by omega)
      simp [Part.ReadAt, members?, read, readLater, after.skip_cons (by decide : ¬ isBlank ',')]

/-- What skipping passes over is blank space. -/
theorem Blanks.of_skip {text rest : List Char} (skipped : skip text = rest) : Blanks text rest :=
  skipped ▸ blanks_skip text

/-- What the decoder reads is in the grammar. -/
theorem Part.ReadAt.stands {depth : Nat} {part : Part} {text rest : List Char}
    (read : part.ReadAt depth text rest) : Stands part text rest := by
  induction depth generalizing part text rest with
  | zero => cases part <;> simp [Part.ReadAt, value?, elements?, member?, members?] at read
  | succ depth ih =>
      cases part with
      | value found =>
          cases text with
          | nil => simp [Part.ReadAt, value?] at read
          | cons c text =>
              simp only [Part.ReadAt, value?] at read
              split at read
              · obtain ⟨⟨content, after⟩, inside, same⟩ := Option.map_eq_some_iff.mp read
                obtain ⟨rfl, rfl⟩ := Prod.mk.inj same
                subst c
                exact .string (stringAt_iff.mpr inside)
              split at read
              · subst c
                split at read
                · obtain ⟨rfl, rfl⟩ := Prod.mk.inj (Option.some.inj read)
                  exact .emptyArray (.of_skip ‹_›)
                · obtain ⟨⟨elements, after⟩, inside, same⟩ := Option.map_eq_some_iff.mp read
                  obtain ⟨rfl, rfl⟩ := Prod.mk.inj same
                  exact .array (ih inside)
              split at read
              · subst c
                split at read
                · obtain ⟨rfl, rfl⟩ := Prod.mk.inj (Option.some.inj read)
                  exact .emptyObject (.of_skip ‹_›)
                · obtain ⟨⟨members, after⟩, inside, same⟩ := Option.map_eq_some_iff.mp read
                  obtain ⟨rfl, rfl⟩ := Prod.mk.inj same
                  exact .object (ih inside)
              · obtain ⟨⟨n, after⟩, inside, same⟩ := Option.map_eq_some_iff.mp read
                obtain ⟨rfl, rfl⟩ := Prod.mk.inj same
                exact .number (numberAt_iff.mpr inside)
      | elements found =>
          simp only [Part.ReadAt, elements?] at read
          obtain ⟨⟨first, stop⟩, inside, read⟩ := Option.bind_eq_some_iff.mp read
          have element : Stands (.value first) (skip text) stop := ih inside
          dsimp only at read
          split at read
          · obtain ⟨rfl, rfl⟩ := Prod.mk.inj (Option.some.inj read)
            exact .lastElement (blanks_skip text) element (.of_skip ‹_›)
          · obtain ⟨⟨later, after⟩, others, same⟩ := Option.bind_eq_some_iff.mp read
            obtain ⟨rfl, rfl⟩ := Prod.mk.inj (Option.some.inj same)
            exact .element (blanks_skip text) element (.of_skip ‹_›) (ih others)
          · cases read
      | member key found =>
          simp only [Part.ReadAt, member?] at read
          split at read
          · rename_i start opening
            obtain ⟨⟨name, stop⟩, quoted, read⟩ := Option.bind_eq_some_iff.mp read
            dsimp only at read
            split at read
            · rename_i behind colon
              obtain ⟨⟨content, after⟩, inside, same⟩ := Option.bind_eq_some_iff.mp read
              obtain ⟨pair, rfl⟩ := Prod.mk.inj (Option.some.inj same)
              obtain ⟨rfl, rfl⟩ := Prod.mk.inj pair
              have value : Stands (.value content) (skip behind) after := ih inside
              exact .member (.of_skip opening) (stringAt_iff.mpr quoted) (.of_skip colon)
                (blanks_skip behind) value
            · cases read
          · cases read
      | members found =>
          simp only [Part.ReadAt, members?] at read
          obtain ⟨⟨⟨key, content⟩, stop⟩, inside, read⟩ := Option.bind_eq_some_iff.mp read
          have member : Stands (.member key content) text stop := ih inside
          dsimp only at read
          split at read
          · obtain ⟨rfl, rfl⟩ := Prod.mk.inj (Option.some.inj read)
            exact .lastMember member (.of_skip ‹_›)
          · obtain ⟨⟨later, after⟩, others, same⟩ := Option.bind_eq_some_iff.mp read
            obtain ⟨rfl, rfl⟩ := Prod.mk.inj (Option.some.inj same)
            exact .members member (.of_skip ‹_›) (ih others)
          · cases read

/-- The decoder accepts the documents of the grammar and gives the value that they stand for. -/
theorem decode?_eq_some_iff {text : List Char} {value : Value} :
    decode? text = some value ↔ IsDocument text value := by
  constructor
  · intro read
    unfold decode? at read
    split at read
    · rename_i found stop inside
      split at read
      · obtain rfl := Option.some.inj read
        have stands : Stands (.value found) (skip text) stop := Part.ReadAt.stands inside
        exact ⟨_, stop, blanks_skip text, stands, .of_skip ‹_›⟩
      · cases read
    · cases read
  · rintro ⟨start, stop, before, stands, after⟩
    have shorter := before.length_le
    have read : value? text.length start = some (value, stop) := stands.readAt (by omega)
    rw [decode?, stands.skip_eq before, read]
    exact if_pos (after.skip_eq (by simp))

end MarkerReport.Json
