import MarkerReport.CommandLine.Given

/-! # Reading a command line

A command line names a command and says how to carry it out. Flags about the amount of logging may
stand before the name of the command and behind it.
-/

namespace MarkerReport

/-- A scan that is asked for. -/
structure ScanRequest where
  /-- The path to scan. -/
  directory : String
  /-- The file to write the report to, if one is named. -/
  output : Option String := none
  /-- The file with the settings, if one is named. -/
  config : Option String := none
  /-- Whether to scan like the first generation. -/
  legacy : Bool := false
  /-- Whether to leave out scopes. -/
  noContext : Bool := false
  format : ReportFormat := .markdown
  /-- Further keywords. -/
  markers : List String := []
  /-- Further extensions. -/
  extensions : List String := []
  /-- Further glob patterns of paths to leave out. -/
  excludes : List String := []
deriving Repr, DecidableEq, Inhabited

/-- The file that the report of a scan goes to. -/
def ScanRequest.outputPath (request : ScanRequest) : String :=
  request.output.getD (if request.legacy then "report.md" else "report_v2.md")

/-- What a command line asks for. -/
inductive Request where
  | scan (request : ScanRequest)
  | printDefaultConfig
  | listLanguages
deriving Repr, DecidableEq, Inhabited

/-- A command line that starts a command. -/
structure CommandLine where
  request : Request
  /-- Whether to log more than usual. -/
  verbose : Bool
  /-- Whether to log less than usual. -/
  quiet : Bool
deriving Repr, DecidableEq, Inhabited

namespace CommandLine

/-- The scan that the arguments behind a command ask for. -/
def Given.scanRequest (given : Given) : Except Usage ScanRequest :=
  match given.directory with
  | none => .error .missingArgument
  | some directory => .ok {
      directory
      output := given.value? .output
      config := given.value? .config
      legacy := given.has .legacy
      noContext := given.has .noContext
      format := ((given.value? .format).bind ReportFormat.named?).getD .markdown
      markers := given.values .marker
      extensions := given.values .extension
      excludes := given.values .exclude }

/-- The usage that a request for help with some commands comes to. No command has commands of its
own. -/
def helpOn : List String → Usage
  | [] => .help
  | [name] => if (Command.named? name).isSome then .help else .unknownCommand
  | _ => .unknownCommand

/-- Reads the arguments behind the name of a command. -/
def readCommand (command : Command) (arguments : List String) : Except Usage (Request × Given) := do
  match command with
  | .scan =>
      let given ← Given.takeAll .scan arguments
      return (.scan (← given.scanRequest), given)
  | .printDefaultConfig => return (.printDefaultConfig, ← Given.takeAll .display arguments)
  | .listLanguages => return (.listLanguages, ← Given.takeAll .display arguments)
  | .help => throw (helpOn arguments)

/-- The command that an argument names. Behind two dashes it names none. -/
def commandOf? (given : Given) (argument : String) : Option Command :=
  if given.separated then none else Command.named? argument

/-- Reads a command line of which something is given already. The arguments behind the name of a
command are read before those in front of it are checked. -/
def readFrom (given : Given) : List String → Except Usage CommandLine
  | [] => .error (if given.flags = [] then .nothingGiven else .missingCommand)
  | argument :: later =>
      match commandOf? given argument with
      | some command => do
          let (request, inner) ← readCommand command later
          given.checkFlags
          return {
            request
            verbose := given.has .verbose || inner.has .verbose
            quiet := given.has .quiet || inner.has .quiet }
      | none =>
          match given.take .top argument with
          | .ok given => readFrom given later
          | .error usage => .error usage

/-- Reads a command line. -/
def read (arguments : List String) : Except Usage CommandLine := readFrom {} arguments

end CommandLine

end MarkerReport
