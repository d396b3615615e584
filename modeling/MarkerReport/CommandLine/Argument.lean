import MarkerReport.Report.Render

/-! # Arguments of a command line

A command line has two levels: the arguments before the name of a command, and those after it. Each
level has its own flags, which stand for themselves, and its own parameters, which have a value.
Both have a long name and some have a letter too.
-/

namespace MarkerReport

/-- A named format of a report. -/
def ReportFormat.named? (name : String) : Option ReportFormat :=
  if name = "markdown" ∨ name = "md" then some .markdown
  else if name = "json" then some .json
  else none

namespace CommandLine

/-- A command. -/
inductive Command where
  | scan
  | printDefaultConfig
  | listLanguages
  | help
deriving Repr, DecidableEq, Inhabited

/-- The name of a command. -/
def Command.name : Command → String
  | scan => "scan"
  | printDefaultConfig => "print-default-config"
  | listLanguages => "list-languages"
  | help => "help"

/-- The command with a name. -/
def Command.named? (name : String) : Option Command :=
  [scan, printDefaultConfig, listLanguages, help].find? (·.name == name)

/-- An argument that stands for itself. -/
inductive Flag where
  | verbose
  | quiet
  | help
  | version
  | legacy
  | noContext
deriving Repr, DecidableEq, Inhabited

namespace Flag

/-- The long name of a flag. -/
def name : Flag → String
  | verbose => "verbose"
  | quiet => "quiet"
  | help => "help"
  | version => "version"
  | legacy => "legacy"
  | noContext => "no-context"

/-- The letter of a flag. -/
def letter? : Flag → Option Char
  | verbose => some 'v'
  | quiet => some 'q'
  | help => some 'h'
  | version => some 'V'
  | legacy | noContext => none

end Flag

/-- An argument that has a value. -/
inductive Parameter where
  | output
  | config
  | format
  | marker
  | extension
  | exclude
deriving Repr, DecidableEq, Inhabited

namespace Parameter

/-- The long name of a parameter. -/
def name : Parameter → String
  | output => "output"
  | config => "config"
  | format => "format"
  | marker => "marker"
  | extension => "ext"
  | exclude => "exclude"

/-- The letter of a parameter. -/
def letter? : Parameter → Option Char
  | output => some 'o'
  | config => some 'c'
  | _ => none

/-- Whether a parameter may be given more than once. -/
def isRepeatable : Parameter → Bool
  | marker | extension | exclude => true
  | output | config | format => false

/-- Whether a parameter takes a value: a path must not be empty, and a format must be known. -/
def takes : Parameter → String → Bool
  | output, path | config, path => path != ""
  | format, name => (ReportFormat.named? name).isSome
  | marker, _ | extension, _ | exclude, _ => true

end Parameter

/-- A level of a command line. -/
inductive Level where
  /-- Before the name of a command. -/
  | top
  /-- After the name of the scan command. -/
  | scan
  /-- After the name of a command that only prints something. -/
  | display
deriving Repr, DecidableEq, Inhabited

namespace Level

/-- The flags of a level. -/
def flags : Level → List Flag
  | top => [.verbose, .quiet, .help, .version]
  | scan => [.legacy, .noContext, .verbose, .quiet, .help]
  | display => [.verbose, .quiet, .help]

/-- The parameters of a level. -/
def parameters : Level → List Parameter
  | scan => [.output, .config, .format, .marker, .extension, .exclude]
  | top | display => []

/-- The flag of a level with a long name. -/
def flagNamed? (level : Level) (name : String) : Option Flag :=
  level.flags.find? (·.name == name)

/-- The parameter of a level with a long name. -/
def parameterNamed? (level : Level) (name : String) : Option Parameter :=
  level.parameters.find? (·.name == name)

/-- The flag of a level with a letter. -/
def flagLettered? (level : Level) (letter : Char) : Option Flag :=
  level.flags.find? (·.letter? == some letter)

/-- The parameter of a level with a letter. -/
def parameterLettered? (level : Level) (letter : Char) : Option Parameter :=
  level.parameters.find? (·.letter? == some letter)

end Level

/-- What an argument looks like. -/
inductive Shape where
  /-- Two dashes: no argument behind them is a flag or a parameter. -/
  | separator
  /-- A long name, and a value if there is an equals sign. -/
  | long (name : String) (value : Option String)
  /-- A row of letters. -/
  | letters (row : List Char)
  /-- Anything else, a single dash included. -/
  | plain
deriving Repr, DecidableEq, Inhabited

/-- What an argument looks like. -/
def Shape.ofText (argument : String) : Shape :=
  match argument.toList with
  | ['-', '-'] => .separator
  | '-' :: '-' :: text =>
      match text.dropWhile (· != '=') with
      | [] => .long (String.ofList text) none
      | _ :: value =>
          .long (String.ofList (text.takeWhile (· != '='))) (some (String.ofList value))
  | '-' :: letter :: row => .letters (letter :: row)
  | _ => .plain

end CommandLine

end MarkerReport
