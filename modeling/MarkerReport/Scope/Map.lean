/-! # Scopes of lines

A scope map gives every line of a file the name of the definition it belongs to. Lines outside every
definition, and lines the file does not have, belong to the module.

A map is built by painting: intervals of lines are laid over the file one after the other, and a
later interval covers an earlier one.
-/

namespace MarkerReport

/-- The name given to lines outside every definition. -/
def moduleScope : String := "<module>"

/-- The lines `first` to `last`, counted from one, that belong to a definition. -/
structure Interval where
  first : Nat
  last : Nat
  name : String
deriving Repr, DecidableEq, Inhabited

namespace Interval

/-- Whether the interval takes a line. -/
def covers (interval : Interval) (line : Nat) : Bool :=
  interval.first ≤ line && line ≤ interval.last

end Interval

/-- The scope of each line of a file, in order. -/
structure ScopeMap where
  names : List String
deriving Repr, DecidableEq, Inhabited

namespace ScopeMap

/-- The map of a file of which nothing is known. -/
def empty : ScopeMap := ⟨[]⟩

/-- The map of a file without definitions. -/
def moduleLevel (lineCount : Nat) : ScopeMap := ⟨List.replicate lineCount moduleScope⟩

/-- How many lines the map speaks of. -/
def size (map : ScopeMap) : Nat := map.names.length

/-- The scope of a line. -/
def scopeFor (map : ScopeMap) : Nat → String
  | 0 => moduleScope
  | index + 1 => (map.names[index]?).getD moduleScope

/-- Lays an interval over the map. -/
def paint (map : ScopeMap) (interval : Interval) : ScopeMap :=
  ⟨map.names.mapIdx fun index name =>
    if interval.covers (index + 1) then interval.name else name⟩

/-- The map of a file whose definitions take the given intervals, later ones covering earlier
ones. -/
def ofIntervals (lineCount : Nat) (intervals : List Interval) : ScopeMap :=
  intervals.foldl paint (moduleLevel lineCount)

end ScopeMap

end MarkerReport
