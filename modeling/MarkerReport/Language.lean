import MarkerReport.Comment.Basic
import MarkerReport.Path
import MarkerReport.Scope.Strategy
import MarkerReport.Text.Case

/-! # Known languages

The languages of which a scan knows how they write comments and where their scopes come from. A
language is found by file extension, whatever its case and with or without leading dots. Files of
other languages are read as if they had a syntax tree.
-/

namespace MarkerReport

/-- What is known of a language. -/
structure Language where
  key : String
  name : String
  extensions : List String
  comments : List CommentStyle
  strategy : ScopeStrategy
  notes : String
deriving Repr, DecidableEq, Inhabited

namespace Language

/-- The known languages, in the order in which they are listed. -/
def known : List Language := [
  { key := "py", name := "Python", extensions := ["py"], comments := [.hash],
    strategy := .syntaxTree, notes := "Functions, async functions and classes" },
  { key := "js", name := "JavaScript", extensions := ["js"], comments := [.block, .doubleSlash],
    strategy := .syntaxTree,
    notes := "Parsed with the Python grammar; usually reports <module>" },
  { key := "java", name := "Java", extensions := ["java"], comments := [.block, .doubleSlash],
    strategy := .syntaxTree,
    notes := "Parsed with the Python grammar; usually reports <module>" },
  { key := "c", name := "C", extensions := ["c", "h"], comments := [.block, .doubleSlash],
    strategy := .syntaxTree,
    notes := "Parsed with the Python grammar; usually reports <module>" },
  { key := "hs", name := "Haskell", extensions := ["hs"], comments := [.doubleDash],
    strategy := .lineHeuristic, notes := "Signature and equation lines; scopes never close" }]

/-- Drops the dots in front of an extension. -/
def trimDots (extension : String) : String :=
  String.ofList (extension.toList.dropWhile (· == '.'))

/-- The language of files with the given extension. -/
def forExtension? (extension : String) : Option Language :=
  if trimDots extension = "" then none
  else known.find? fun language =>
    language.extensions.any (Text.sameAsciiFolded (trimDots extension))

end Language

namespace ScopeStrategy

/-- The strategy for files with the given extension. -/
def forExtension (extension : String) : ScopeStrategy :=
  match Language.forExtension? extension with
  | some language => language.strategy
  | none => .syntaxTree

/-- The strategy for the file at a path. -/
def forPath (path : String) : ScopeStrategy :=
  match Path.extension? path with
  | some extension => forExtension extension
  | none => .syntaxTree

end ScopeStrategy

end MarkerReport
