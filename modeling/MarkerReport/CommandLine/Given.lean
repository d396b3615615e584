import MarkerReport.CommandLine.Argument
import MarkerReport.CommandLine.Usage

/-! # What is given at a level

Arguments are read from left to right. A parameter and the directory of a scan stay open until the
next argument that is taken, or the end of the level: only then is it settled whether their value is
there, whether it is one that they take, and whether they were given before. So of two faults, an
argument that is not known is told before a value that is not taken, even if it stands behind it.
-/

namespace MarkerReport.CommandLine

/-- What has been read but not settled. -/
inductive Open where
  /-- A parameter, and its value once it is there. -/
  | parameter (parameter : Parameter) (value : Option String)
  /-- The directory of a scan. -/
  | directory (path : String)
deriving Repr, DecidableEq, Inhabited

/-- What is given at a level. -/
structure Given where
  /-- The flags that are given. -/
  flags : List Flag := []
  /-- The parameters that are given with their values, in order. -/
  parameters : List (Parameter × String) := []
  /-- The directory to scan. -/
  directory : Option String := none
  /-- What is not settled yet. -/
  unsettled : Option Open := none
  /-- Whether two dashes have been read. -/
  separated : Bool := false
deriving Repr, DecidableEq, Inhabited

namespace Given

/-- Whether a flag is given. -/
def has (given : Given) (flag : Flag) : Bool := given.flags.contains flag

/-- The values of a parameter, in order. -/
def values (given : Given) (parameter : Parameter) : List String :=
  given.parameters.filterMap fun (other, value) => if other = parameter then some value else none

/-- The value of a parameter that is given once at most. -/
def value? (given : Given) (parameter : Parameter) : Option String := (given.values parameter).head?

/-- Whether a directory is given, settled or not. -/
def hasDirectory (given : Given) : Bool :=
  match given.unsettled with
  | some (.directory _) => true
  | _ => given.directory.isSome

/-- Takes a parameter with its value. -/
def takeParameter (given : Given) (parameter : Parameter) (value : String) : Except Usage Given :=
  if !parameter.isRepeatable && (given.value? parameter).isSome then .error .conflict
  else if parameter.takes value then
    .ok { given with parameters := given.parameters ++ [(parameter, value)] }
  else .error .invalidValue

/-- Settles what is open. -/
def settle (given : Given) : Except Usage Given :=
  let settled := { given with unsettled := none }
  match given.unsettled with
  | none => .ok settled
  | some (.parameter _ none) => .error .invalidValue
  | some (.parameter parameter (some value)) => settled.takeParameter parameter value
  | some (.directory path) =>
      if path = "" then .error .invalidValue else .ok { settled with directory := some path }

/-- Takes a flag. A request for help or for the version ends the reading. -/
def takeFlag (given : Given) (flag : Flag) : Except Usage Given := do
  let given ← given.settle
  match flag with
  | .help => throw .help
  | .version => throw .version
  | flag =>
      if given.has flag then throw .conflict
      return { given with flags := flag :: given.flags }

/-- Takes a parameter with the value that is attached to it, or leaves it open. -/
def openParameter (given : Given) (parameter : Parameter) (value : Option String) :
    Except Usage Given := do
  let given ← given.settle
  match value with
  | some value => given.takeParameter parameter value
  | none => return { given with unsettled := some (.parameter parameter none) }

/-- Takes a flag or a parameter by its long name. -/
def takeLong (level : Level) (given : Given) (name : String) (value : Option String) :
    Except Usage Given :=
  match level.flagNamed? name, level.parameterNamed? name with
  | some flag, _ => if value.isSome then .error .strayValue else given.takeFlag flag
  | none, some parameter => given.openParameter parameter value
  | none, none => .error .unknownArgument

/-- The value that is attached to a letter, perhaps by an equals sign. -/
def attached? : List Char → Option String
  | [] => none
  | '=' :: value => some (String.ofList value)
  | value => some (String.ofList value)

/-- Takes the flags of a row of letters. A parameter takes the rest of the row for its value. -/
def takeLetters (level : Level) (given : Given) : List Char → Except Usage Given
  | [] => .ok given
  | letter :: row =>
      match level.flagLettered? letter, level.parameterLettered? letter with
      | some flag, _ =>
          match given.takeFlag flag with
          | .ok given => takeLetters level given row
          | .error usage => .error usage
      | none, some parameter => given.openParameter parameter (attached? row)
      | none, none => .error .unknownArgument

/-- Takes an argument that is neither a flag nor a parameter nor the value of one. Only a scan takes
one, its directory; before the name of a command there can only be the name of a command. -/
def takePlain (level : Level) (given : Given) (argument : String) : Except Usage Given :=
  match level with
  | .top => .error (if (Command.named? argument).isSome then .unknownArgument else .unknownCommand)
  | .display => .error .unknownArgument
  | .scan =>
      if given.hasDirectory then .error .unknownArgument
      else
        match given.settle with
        | .ok given => .ok { given with unsettled := some (.directory argument) }
        | .error usage => .error usage

/-- Takes an argument. -/
def take (level : Level) (given : Given) (argument : String) : Except Usage Given :=
  if given.separated then given.takePlain level argument
  else
    match Shape.ofText argument with
    | .separator => .ok { given with separated := true }
    | .long name value => given.takeLong level name value
    | .letters row => given.takeLetters level row
    | .plain =>
        match given.unsettled with
        | some (.parameter parameter none) =>
            .ok { given with unsettled := some (.parameter parameter (some argument)) }
        | _ => given.takePlain level argument

/-- Complains about flags that exclude each other. -/
def checkFlags (given : Given) : Except Usage Unit :=
  if given.has .verbose && given.has .quiet then .error .conflict else .ok ()

/-- Takes all arguments of a level that names no further command. -/
def takeAll (level : Level) (arguments : List String) : Except Usage Given := do
  let given ← arguments.foldlM (take level) {}
  let given ← given.settle
  given.checkFlags
  return given

end Given

end MarkerReport.CommandLine
