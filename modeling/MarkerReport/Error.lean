/-! # Failures

Every operation that can fail says so with an `Error`. Most failures never leave the file in which
they arise: the file then contributes nothing, or contributes without scopes. Only configuration and
the writing of a report let a failure end a run.
-/

namespace MarkerReport

/-- Why the file system refused an operation. -/
inductive IoCause where
  | notFound
  | permissionDenied
  | isADirectory
  | notADirectory
  | alreadyExists
  /-- The bytes of a file are not what the operation reads. -/
  | invalidData
  | other
deriving Repr, DecidableEq, Inhabited

/-- A place in a source text, counted from one; columns count bytes. -/
structure Position where
  line : Nat
  column : Nat
deriving Repr, DecidableEq, Inhabited

/-- A failure, with what it is about. -/
inductive Error where
  /-- The file system refused an operation. -/
  | io (message : String) (cause : IoCause)
  /-- Settings that no scan can use. -/
  | config (message : String) (field : Option String)
  /-- A text that its language rejects. -/
  | parse (language message : String) (file : Option String) (position : Option Position)
  /-- A document that cannot be read or written in its format. -/
  | serialization (message : String) (format : Option String)
  /-- A value that breaks a rule. -/
  | validation (message : String) (field expected actual : Option String)
deriving Repr, DecidableEq, Inhabited

namespace Error

/-- The text shown for a failure. -/
def message : Error → String
  | io text _ => "I/O error: " ++ text
  | config text _ => "Configuration error: " ++ text
  | parse language text _ _ => "Parse error in " ++ language ++ ": " ++ text
  | serialization text _ => "Serialization error: " ++ text
  | validation text _ _ _ => "Validation error: " ++ text

/-- Names the file in which a text was rejected, unless one is named already. -/
def inFile (file : String) : Error → Error
  | parse language text none position => parse language text (some file) position
  | error => error

/-- Says what was being done when the failure arose. A rejected text keeps its own words. -/
def withContext (context : String) : Error → Error
  | io text cause => io (context ++ ": " ++ text) cause
  | config text field => config (context ++ ": " ++ text) field
  | serialization text format => serialization (context ++ ": " ++ text) format
  | validation text field expected actual =>
      validation (context ++ ": " ++ text) field expected actual
  | parse language text file position => parse language text file position

@[simp] theorem inFile_inFile (first second : String) (error : Error) :
    (error.inFile first).inFile second = error.inFile first := by
  cases error with
  | parse language text file position => cases file <;> rfl
  | _ => rfl

@[simp] theorem withContext_parse (context language text : String) (file : Option String)
    (position : Option Position) :
    (parse language text file position).withContext context =
      parse language text file position := rfl

/-- A file system failure of which nothing else is known. -/
def ofIo (cause : IoCause) : Error := io "I/O operation failed" cause

/-- A failure to read or write JSON. -/
def ofJson (detail : String) : Error :=
  serialization ("JSON serialization failed: " ++ detail) (some "JSON")

/-- A failure to read or write YAML. -/
def ofYaml (detail : String) : Error :=
  serialization ("YAML serialization failed: " ++ detail) (some "YAML")

/-- A search pattern that cannot be compiled. -/
def ofPattern (detail : String) : Error := config ("Invalid pattern: " ++ detail) none

/-- Bytes that are not UTF-8. -/
def ofEncoding (detail : String) : Error :=
  parse "unknown" ("UTF-8 encoding error: " ++ detail) none none

/-- A list of keywords that is empty. -/
def noKeywords : Error := config "at least one marker keyword is required" (some "markers")

/-- A source text with a syntax error. Where the error is hangs on how a parser recovers from it,
which is not modelled; so its position is left out. -/
def malformed : Error := parse "python" "source contains syntax errors" none none

end Error

/-- Two stages, one after the other, give a value when both of them do. -/
theorem bind_eq_ok_iff {ε α β : Type} {first : Except ε α} {second : α → Except ε β} {value : β} :
    first >>= second = .ok value ↔ ∃ found, first = .ok found ∧ second found = .ok value := by
  cases first with
  | error fault => simp [bind, Except.bind]
  | ok found => simp [bind, Except.bind]

end MarkerReport
