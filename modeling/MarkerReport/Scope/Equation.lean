import MarkerReport.Scope.Map
import MarkerReport.Text.Character
import MarkerReport.Text.Lines

/-! # Scopes read off signatures and equations

In a file of signatures and equations no block structure is looked at. A line that starts with a
name followed by `::`, or by a blank and later an equals sign, opens the scope of that name, and the
scope lasts until another line opens one.
-/

namespace MarkerReport.Equation

/-- Whether a character can start a name. -/
def startsName (c : Char) : Bool :=
  ('A' ≤ c && c ≤ 'Z') || ('a' ≤ c && c ≤ 'z') || c == '_'

/-- Whether a character can continue a name. -/
def continuesName (c : Char) : Bool := Text.isWord c || c == '\''

/-- The longest name at the start of a line, with what follows it. -/
def leadingName? : List Char → Option (List Char × List Char)
  | [] => none
  | c :: rest =>
      if startsName c then
        some (c :: rest.takeWhile continuesName, rest.dropWhile continuesName)
      else none

/-- Whether what follows a name makes a line a signature or an equation. -/
def introduces (after : List Char) : Bool :=
  let blanks := after.takeWhile Text.isBlank
  let body := after.dropWhile Text.isBlank
  match body with
  | ':' :: ':' :: _ => true
  | _ => !blanks.isEmpty && (body.takeWhile (· != '\n')).contains '='

/-- The name that a line introduces. -/
def scopeName? (line : List Char) : Option (List Char) :=
  match leadingName? line with
  | some (name, after) => if introduces after then some name else none
  | none => none

/-- The scopes of successive lines, the first of which stands in the scope `current`. -/
def scopesFrom : (current : String) → List (List Char) → List String
  | _, [] => []
  | current, line :: later =>
      let scope :=
        match scopeName? line with
        | some name => String.ofList name
        | none => current
      scope :: scopesFrom scope later

/-- The scope map of a file of signatures and equations. -/
def scopeMap (source : List Char) : ScopeMap := ⟨scopesFrom moduleScope (Text.lines source)⟩

end MarkerReport.Equation
