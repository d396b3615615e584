import MarkerReport.Yaml.Node
import MarkerReport.Yaml.Scanner

/-! # YAML documents with their anchors

An alias stands for a node with an anchor that comes before it. Anchors are numbered: a name gets as
number how many different names were known before it was met again or for the first time, and an
alias means the last node of the document whose anchor has its number.
-/

namespace MarkerReport.Yaml

/-- The numbers of the names of anchors. -/
abbrev AnchorNumbers := List (String × Nat)

/-- Gives a name the number that is next. -/
def assignNumber (numbers : AnchorNumbers) (name : String) : AnchorNumbers :=
  (name, numbers.length) :: numbers.filter fun (other, _) => other != name

/-- The properties of a node with the number of its anchor in place of the name, and the numbers
behind it. -/
def Properties.numbered (properties : Properties) (numbers : AnchorNumbers) :
    Properties × AnchorNumbers :=
  match properties.anchor with
  | none => (properties, numbers)
  | some name =>
      ({ properties with anchor := some (toString numbers.length) }, assignNumber numbers name)

mutual

/-- A node with numbers in place of the names of anchors, unless it has an alias for an anchor that
is not known. -/
def Node.numbered : Node → AnchorNumbers → Option (Node × AnchorNumbers)
  | .alias name, numbers =>
      (numbers.lookup name).map fun number => (.alias (toString number), numbers)
  | .scalar properties style text, numbers =>
      let (named, after) := properties.numbered numbers
      some (.scalar named style text, after)
  | .sequence properties items, numbers => do
      let (named, after) := properties.numbered numbers
      let (items, after) ← numberedItems items after
      some (.sequence named items, after)
  | .mapping properties pairs, numbers => do
      let (named, after) := properties.numbered numbers
      let (pairs, after) ← numberedPairs pairs after
      some (.mapping named pairs, after)

/-- The items of a sequence with numbers in place of the names of anchors. -/
def numberedItems : List Node → AnchorNumbers → Option (List Node × AnchorNumbers)
  | [], numbers => some ([], numbers)
  | item :: later, numbers => do
      let (item, after) ← item.numbered numbers
      let (later, after) ← numberedItems later after
      some (item :: later, after)

/-- The pairs of a mapping with numbers in place of the names of anchors. -/
def numberedPairs : List (Node × Node) → AnchorNumbers →
    Option (List (Node × Node) × AnchorNumbers)
  | [], numbers => some ([], numbers)
  | (key, value) :: later, numbers => do
      let (key, after) ← key.numbered numbers
      let (value, after) ← value.numbered after
      let (later, after) ← numberedPairs later after
      some ((key, value) :: later, after)

end

/-- A node under its anchor, if it has one. -/
def underAnchor (properties : Properties) (node : Node) : List (String × Node) :=
  match properties.anchor with
  | some name => [(name, node)]
  | none => []

mutual

/-- The nodes with an anchor, in order. -/
def Node.anchored : Node → List (String × Node)
  | .alias _ => []
  | .scalar properties style text => underAnchor properties (.scalar properties style text)
  | .sequence properties items =>
      underAnchor properties (.sequence properties items) ++ anchoredItems items
  | .mapping properties pairs =>
      underAnchor properties (.mapping properties pairs) ++ anchoredPairs pairs

/-- The nodes with an anchor among items, in order. -/
def anchoredItems : List Node → List (String × Node)
  | [] => []
  | item :: later => item.anchored ++ anchoredItems later

/-- The nodes with an anchor among pairs, in order. -/
def anchoredPairs : List (Node × Node) → List (String × Node)
  | [] => []
  | (key, value) :: later => key.anchored ++ value.anchored ++ anchoredPairs later

end

/-- A document. -/
structure Document where
  root : Node
  /-- The nodes with an anchor, the last one first. -/
  anchors : List (String × Node)
deriving Inhabited

namespace Document

/-- The document with the given root. -/
def ofRoot? (root : Node) : Option Document :=
  (root.numbered []).map fun (numbered, _) => ⟨numbered, numbered.anchored.reverse⟩

/-- Reads a stream that holds one document. -/
def read? (source : List Char) : Option Document := do
  let root ← document? (← tokens? source)
  ofRoot? root

/-- The node that a node stands for. -/
def resolve (document : Document) : Node → Option Node
  | .alias name => document.anchors.lookup name
  | node => some node

end Document

end MarkerReport.Yaml
