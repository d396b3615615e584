/-! # Marker keywords

A scan looks for a fixed, nonempty list of keywords. Their order matters only where two of them
match at one place: the earlier one is taken.
-/

namespace MarkerReport

/-- The keywords of a scan. -/
structure Keywords where
  words : List String
  nonempty : words ≠ []
deriving DecidableEq

namespace Keywords

/-- The keywords of a scan that names none itself. -/
def default : Keywords := ⟨["TODO", "FIXME"], by simp⟩

instance : Inhabited Keywords := ⟨Keywords.default⟩

/-- Reads a list of words as keywords, unless it is empty. -/
def ofList? (words : List String) : Option Keywords :=
  if nonempty : words = [] then none else some ⟨words, nonempty⟩

theorem ofList?_eq_none_iff (words : List String) : ofList? words = none ↔ words = [] := by
  simp [ofList?]

theorem words_ofList? {words : List String} {keywords : Keywords}
    (accepted : ofList? words = some keywords) : keywords.words = words := by
  unfold ofList? at accepted
  split at accepted
  · simp at accepted
  · simp only [Option.some.injEq] at accepted
    rw [← accepted]

/-- The keywords as character lists, in order. -/
def spellings (keywords : Keywords) : List (List Char) := keywords.words.map String.toList

end Keywords

end MarkerReport
