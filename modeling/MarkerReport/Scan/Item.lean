import MarkerReport.Marker.Finding

/-! # Items of a report -/

namespace MarkerReport

/-- A finding together with the file it is in and, if scopes are resolved, the scope of its line. -/
structure Item where
  file : String
  line : Nat
  scope : Option String
  kind : String
  text : String
deriving Repr, DecidableEq, Inhabited

namespace Item

/-- The item for a finding in a file. -/
def ofFinding (file : String) (scope : Option String) (finding : Finding) : Item :=
  { file, scope, line := finding.line, kind := finding.kind, text := finding.text }

/-- The finding that an item is about. -/
def finding (item : Item) : Finding := ⟨item.line, item.kind, item.text⟩

@[simp] theorem finding_ofFinding (file : String) (scope : Option String) (finding : Finding) :
    (ofFinding file scope finding).finding = finding := rfl

end Item

/-- What a scan comes back with. -/
inductive Outcome where
  | items (found : List Item) (nonempty : found ≠ [])
  | noItems
deriving Repr, DecidableEq

namespace Outcome

/-- The outcome of a scan with the given items. -/
def ofItems (found : List Item) : Outcome :=
  if nonempty : found = [] then .noItems else .items found nonempty

/-- The items of an outcome. -/
def toList : Outcome → List Item
  | items found _ => found
  | noItems => []

@[simp] theorem toList_ofItems (found : List Item) : (ofItems found).toList = found := by
  by_cases empty : found = []
  · simp [ofItems, toList, empty]
  · simp [ofItems, toList, empty]

theorem ofItems_eq_noItems_iff (found : List Item) : ofItems found = noItems ↔ found = [] := by
  by_cases empty : found = []
  · simp [ofItems, empty]
  · simp [ofItems, empty]

end Outcome

end MarkerReport
