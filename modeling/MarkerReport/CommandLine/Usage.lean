/-! # Command lines that start no command

A command line may ask for help or for the version, or it may break the rules. Either way no command
is carried out, and the exit code tells the two apart.
-/

namespace MarkerReport

/-- Why a command line starts no command. -/
inductive Usage where
  /-- It asks for help. -/
  | help
  /-- It asks for the version. -/
  | version
  /-- There is nothing on it. -/
  | nothingGiven
  /-- It names a command that there is not. -/
  | unknownCommand
  /-- It names no command. -/
  | missingCommand
  /-- It has an argument that its command does not take. -/
  | unknownArgument
  /-- It lacks an argument that its command needs. -/
  | missingArgument
  /-- A parameter lacks its value or has one that it does not take. -/
  | invalidValue
  /-- Two of its arguments exclude each other. -/
  | conflict
  /-- A flag has a value. -/
  | strayValue
deriving Repr, DecidableEq, Inhabited

namespace Usage

/-- The exit code: answering a question is no failure. -/
def exitCode : Usage → UInt8
  | help | version => 0
  | _ => 2

/-- What is printed about the version, if it is asked for. -/
def versionText : Usage → Option String
  | version => some "todo-md 0.2.0\n"
  | _ => none

end Usage

end MarkerReport
