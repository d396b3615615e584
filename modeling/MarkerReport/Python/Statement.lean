import MarkerReport.Python.Pattern

/-! # Statements

The words `print`, `exec`, `match`, `type` and `async` start statements of their own only where they
cannot be names; where both readings fit, the expression is meant.
-/

namespace MarkerReport.Python

open MarkerReport.Python.Parser

section

variable (self : ∀ {α : Type}, Goal α → Parser α)

/-- Whether a token ends a simple statement. -/
def endsStatement (token : Token) : Bool := token.isNewline || token.isOperator ";"

/-- The operators that change what they assign to. -/
def isAugmenting : Token → Bool
  | .operator text =>
      ["+=", "-=", "*=", "/=", "@=", "//=", "%=", "**=", ">>=", "<<=", "&=", "^=", "|="].contains
        text
  | _ => false

/-- What stands on one side of an assignment, whether something can be assigned to it, and where a
further assignment may follow. -/
def assignmentSide : Parser (List SyntaxTree × Bool) := do
  let token ← peek .operand
  if token.isWord "yield" then return ([← yieldExpression self .line], false)
  else
    let side ← expressionList self .line
    return (side, areAssignable side)

/-- One more side of an assignment, if the text goes on with one. The types of what is assigned to
count as sides that cannot be assigned to. -/
def nextSide (sides : List SyntaxTree × Bool) : Parser (Option (List SyntaxTree × Bool)) := do
  let (parts, assignable) := sides
  let token ← peek (Context.line.after false)
  if token.isOperator "=" || isAugmenting token then
    if assignable then
      discard advance
      let (side, assignable) ← assignmentSide self
      return some (parts ++ side, assignable)
    else failure
  else if token.isOperator ":" then
    if assignable then
      discard advance
      let typeOf ← self (.expression .line)
      if ← tryOperator (Context.line.after false) "=" then
        let (side, assignable) ← assignmentSide self
        return some (parts ++ typeOf :: side, assignable)
      else return some (parts ++ [typeOf], false)
    else failure
  else return none

/-- An expression, an assignment, or a `yield`, up to the end of the statement. -/
def expressionStatement : Parser SyntaxTree :=
  node .statement do
    let first ← assignmentSide self
    let (parts, _) ← manyFrom (nextSide self) first
    if endsStatement (← peek (Context.line.after false)) then return parts else failure

/-- Names separated by dots. -/
def dottedName (after : Expect) : Parser SyntaxTree := do
  let (_, first) ← takeName .plain
  let later ← many do
    if ← tryOperator after "." then return some (← takeName .plain).2 else return none
  return if later.isEmpty then first else wrap .expression first later

/-- An imported name, with the name it goes by here. -/
def importedName (after : Expect) : Parser SyntaxTree := do
  let name ← dottedName after
  if ← tryWord after "as" then return wrap .expression name [(← takeName .plain).2]
  else return name

/-- Imported names separated by commas. -/
def importedNames (after : Expect) : Parser (List SyntaxTree) := do
  let first ← importedName after
  let later ← many do
    if ← tryOperator after "," then
      if (← peek after).isName then return some [← importedName after] else return some []
    else return none
  return first :: later.flatten

def importStatement : Parser SyntaxTree :=
  node .statement do
    discard advance
    importedNames { newline := true }

/-- The dots before the name of a module. -/
def importDots : Parser (List SyntaxTree) :=
  many do
    let token ← peek .plain
    if token.isOperator "." || token.isOperator "..." then return some (← leaf .expression)
    else return none

def importFromStatement : Parser SyntaxTree :=
  node .statement do
    discard advance
    let dots ← importDots
    let future := (← peek .plain).isWord "__future__" && dots.isEmpty
    let source ←
      if future then do pure [← leaf .identifier]
      else if dots.isEmpty || (← peek .plain).isName then do pure [← dottedName .plain]
      else pure []
    takeWord .plain "import"
    let token ← peek .plain
    if token.isOperator "*" && !future then return dots ++ source ++ [← leaf .expression]
    else if token.isOperator "(" then
      discard advance
      let names ← importedNames { close := true }
      takeOperator { close := true } ")"
      return dots ++ source ++ names
    else return dots ++ source ++ (← importedNames { newline := true })

/-- A `print` that is a statement: with a file to print to, or directly followed by what is
printed. -/
def printStatement : Parser SyntaxTree :=
  node .printStatement do
    discard advance
    let token ← peek (Context.line.after true)
    if token.isOperator ">>" then
      let file ← node .expression do
        discard advance
        return [← self (.expression .line)]
      let later ← many do
        if ← tryOperator (Context.line.after false) "," then
          let token ← peek (Context.line.after true)
          if token.startsExpression then return some [← self (.expression .line)]
          else return some []
        else return none
      return file :: later.flatten
    else expressionList self .line

/-- A statement that starts with `print`. -/
def printOrExpression : Parser SyntaxTree := do
  let redirected : Parser SyntaxTree := do
    let state ← get
    discard advance
    if (← peek (Context.line.after true)).isOperator ">>" then
      set state
      printStatement self
    else failure
  redirected <|> expressionStatement self <|> printStatement self

def execStatement : Parser SyntaxTree :=
  node .execStatement do
    discard advance
    let code ←
      match ← peek (Context.line.after true) with
      | .mark (.stringStart opening ..) => stringLiteral self opening
      | _ => do pure (← takeName .plain).2
    let namespaces ←
      if ← tryWord (Context.line.after false) "in" then expressionList self .line else pure []
    if endsStatement (← peek (Context.line.after false)) then return code :: namespaces
    else failure

/-- The type parameters of a definition in their brackets, if there are any. -/
def typeParameters : Parser (List SyntaxTree) := do
  if (← peek .plain).isOperator "[" then
    let part : Parser SyntaxTree := do
      let token ← peek .operand
      let name ←
        if token.isOperator "**" then starred self .bracket else self (.expression .bracket)
      if ← tryOperator { close := true } ":" then
        return wrap .expression name [← self (.expression .bracket)]
      else return name
    return [← node .parameters do
      discard advance
      let first ← part
      let later ← many do
        if ← tryOperator { close := true } "," then
          if (← peek { string := true, close := true }).isOperator "]" then return some []
          else return some [← part]
        else return none
      takeOperator { close := true } "]"
      return first :: later.flatten]
  else return []

/-- The name of a type on the left of its definition, with type parameters if it has any. -/
def aliasHead : Parser (List SyntaxTree) := do
  let simple : Parser (List SyntaxTree) := do
    let left ← self (.expression .inner)
    takeOperator .plain "="
    return [left]
  let generic : Parser (List SyntaxTree) := do
    let (_, name) ← takeName .plain
    let types ← typeParameters self
    takeOperator .plain "="
    return name :: types
  simple <|> generic

def typeAliasStatement : Parser SyntaxTree :=
  node .statement do
    discard advance
    return (← aliasHead self) ++ [← self (.expression .line)]

/-- Expressions separated by commas, with none after the last one. -/
def expressions : Parser (List SyntaxTree) := do
  let first ← self (.expression .line)
  let later ← many do
    if ← tryOperator (Context.line.after false) "," then
      return some (← self (.expression .line))
    else return none
  return first :: later

/-- Names separated by commas. -/
def names : Parser (List SyntaxTree) := do
  let (_, first) ← takeName .plain
  let later ← many do
    if ← tryOperator { newline := true } "," then return some (← takeName .plain).2
    else return none
  return first :: later

/-- Expressions separated by commas, if there are any. -/
def optionalExpressions : Parser (List SyntaxTree) := do
  if (← peek (Context.line.after true)).startsExpression then expressionList self .line
  else return []

def raiseStatement : Parser SyntaxTree :=
  node .statement do
    discard advance
    let raised ← optionalExpressions self
    if ← tryWord (Context.line.after false) "from" then
      return raised ++ [← self (.expression .line)]
    else return raised

/-- A simple statement. -/
def simpleStatement : Parser SyntaxTree := do
  let keyword (parts : Parser (List SyntaxTree)) : Parser SyntaxTree :=
    node .statement do
      discard advance
      parts
  match ← peek (Context.line.after true) with
  | .word "import" => importStatement
  | .word "from" => importFromStatement
  | .word "print" => printOrExpression self
  | .word "assert" => keyword (expressions self)
  | .word "return" => keyword (optionalExpressions self)
  | .word "del" => keyword (expressionList self .line)
  | .word "raise" => raiseStatement self
  | .word "pass" => keyword (pure [])
  | .word "break" => keyword (pure [])
  | .word "continue" => keyword (pure [])
  | .word "global" => keyword names
  | .word "nonlocal" => keyword names
  | .word "exec" => execStatement self <|> expressionStatement self
  | .word "type" => expressionStatement self <|> typeAliasStatement self
  | _ => expressionStatement self

/-- A line of simple statements separated by semicolons, with the end of the line. -/
def simpleStatements : Parser (List SyntaxTree) := do
  let first ← simpleStatement self
  let later ← many do
    if ← tryOperator (Context.line.after false) ";" then
      if (← peek (Context.line.after true)).isNewline then return some []
      else return some [← simpleStatement self]
    else return none
  if (← peek (Context.line.after false)).isNewline then
    discard advance
    return first :: later.flatten
  else failure

/-- The body of a compound statement: statements on the same line, an indented block, or nothing. -/
def suite : Parser SyntaxTree := do
  match ← peek { newline := true, indent := true, string := true } with
  | .mark .newline => leaf .block
  | .mark (.indent _) =>
      discard advance
      discard (peek { dedent := true, string := true })
      node .block do
        let statements ← many do
          if (← peek { dedent := true, string := true }).isDedent then
            discard advance
            return none
          else return some (← self (.statement true))
        return statements.flatten
  | _ => node .block (simpleStatements self)

/-- What may come after a compound statement or a part of it. -/
def afterSuite (inBlock : Bool) : Expect := { dedent := inBlock, string := true }

/-- A part of a compound statement: a keyword with what follows it, a colon and a body. -/
def clause (header : Parser (List SyntaxTree)) : Parser SyntaxTree :=
  node .clause do
    discard advance
    let parts ← header
    takeOperator .plain ":"
    return parts ++ [← self .suite]

/-- An `else` part, if one comes next. -/
def elseClause (expect : Expect) : Parser (List SyntaxTree) := do
  if (← peek expect).isWord "else" then return [← clause self (pure [])] else return []

def condition : Parser (List SyntaxTree) := do return [← self (.expression .inner)]

def ifStatement (inBlock : Bool) : Parser SyntaxTree :=
  node .statement do
    discard advance
    let test ← condition self
    takeOperator .plain ":"
    let body ← self .suite
    let alternatives ← many do
      if (← peek (afterSuite inBlock)).isWord "elif" then
        return some (← clause self (condition self))
      else return none
    return test ++ body :: alternatives ++ (← elseClause self (afterSuite inBlock))

def whileStatement (inBlock : Bool) : Parser SyntaxTree :=
  node .statement do
    discard advance
    let test ← condition self
    takeOperator .plain ":"
    let body ← self .suite
    return test ++ body :: (← elseClause self (afterSuite inBlock))

/-- A loop over the elements of something, behind an `async` if there is one. -/
def forStatement (inBlock : Bool) : Parser (List SyntaxTree) := do
  takeWord .plain "for"
  let targets ← targetList self
  takeWord .plain "in"
  let source ← expressionList self .inner
  takeOperator .plain ":"
  let body ← self .suite
  return targets ++ source ++ body :: (← elseClause self (afterSuite inBlock))

/-- A `with` statement, behind an `async` if there is one. -/
def withStatement : Parser (List SyntaxTree) := do
  takeWord .plain "with"
  let managers ← expressionList self .inner
  takeOperator .plain ":"
  return managers ++ [← self .suite]

/-- The exceptions that a handler names, behind a star if it handles groups of them. -/
def handled : Parser (List SyntaxTree) := do
  if ← tryOperator .operand "*" then expressionList self .inner
  else if (← peek .operand).startsExpression then expressionList self .inner
  else return []

def tryStatement (inBlock : Bool) : Parser SyntaxTree :=
  node .statement do
    discard advance
    takeOperator .plain ":"
    let body ← self .suite
    discard (peek { handler := true })
    let expect : Expect := { afterSuite inBlock with handler := true }
    let handlers ← many do
      if (← peek expect).isWord "except" then return some (← clause self (handled self))
      else return none
    let otherwise ← if handlers.isEmpty then pure [] else elseClause self expect
    let finals ←
      if (← peek (afterSuite inBlock)).isWord "finally" then do
        pure [← clause self (pure [])]
      else pure []
    if handlers.isEmpty && finals.isEmpty then failure
    else return body :: handlers ++ otherwise ++ finals

/-- The parameters of a function in their brackets. -/
def parametersInBrackets : Parser SyntaxTree := do
  discard (peek .plain)
  node .parameters do
    takeOperator .plain "("
    let parts ← parameterList self { close := true } true ")"
    takeOperator { close := true } ")"
    return parts

/-- A function, behind an `async` if there is one. -/
def functionDefinition : Parser (NodeKind × Option String × List SyntaxTree) := do
  takeWord .plain "def"
  let (text, name) ← takeName .plain
  let types ← typeParameters self
  let parameters ← parametersInBrackets self
  let result ←
    if ← tryOperator .plain "->" then do pure [← self (.expression .inner)] else pure []
  takeOperator .plain ":"
  let body ← self .suite
  return (.functionDefinition, some text, name :: types ++ parameters :: result ++ [body])

def classDefinition : Parser SyntaxTree :=
  build do
    discard advance
    let (text, name) ← takeName .plain
    let types ← typeParameters self
    let bases ←
      if (← peek .plain).isOperator "(" then do pure [← callArguments self false] else pure []
    takeOperator .plain ":"
    let body ← self .suite
    return (.classDefinition, some text, name :: types ++ bases ++ [body])

/-- A statement that starts with `async`, unless that is a name here. -/
def asyncStatement (inBlock : Bool) : Parser SyntaxTree :=
  build do
    discard advance
    let token ← peek .plain
    if token.isWord "def" then functionDefinition self
    else if token.isWord "for" then return (.statement, none, ← forStatement self inBlock)
    else if token.isWord "with" then return (.statement, none, ← withStatement self)
    else failure

/-- Definitions with decorators before them. -/
def decoratedDefinition : Parser SyntaxTree :=
  node .statement do
    let decorators ← many do
      if (← peek .plain).isOperator "@" then
        return some (← node .clause do
          discard advance
          let decorator ← self (.expression .line)
          if (← peek (Context.line.after false)).isNewline then
            discard advance
            return [decorator]
          else failure)
      else return none
    let token ← peek .plain
    let definition ←
      if token.isWord "class" then classDefinition self
      else if token.isWord "def" then build (functionDefinition self)
      else
        build do
          takeWord .plain "async"
          functionDefinition self
    return decorators ++ [definition]

/-- A case of a `match` statement. -/
def caseClause : Parser SyntaxTree :=
  clause self do
    let first ← self (.pattern false)
    let later ← many do
      if ← tryOperator .plain "," then
        let token ← peek .operand
        if token.isOperator ":" || token.isWord "if" then return some []
        else return some [← self (.pattern false)]
      else return none
    let guard ←
      if (← peek .plain).isWord "if" then do
        pure [← node .clause do
          discard advance
          condition self]
      else pure []
    return first :: later.flatten ++ guard

def matchStatement : Parser SyntaxTree :=
  node .statement do
    discard advance
    let subjects ← expressionList self .inner
    takeOperator .plain ":"
    match ← peek { newline := true, indent := true } with
    | .mark .newline => return subjects ++ [← leaf .block]
    | .mark (.indent _) =>
        discard advance
        discard (peek { dedent := true })
        let body ← node .block do
          many do
            let token ← peek { dedent := true }
            if token.isDedent then
              discard advance
              return none
            else if token.isWord "case" then return some (← caseClause self)
            else failure
        return subjects ++ [body]
    | _ => failure

/-- A line of simple statements, or a compound statement. -/
def statement (inBlock : Bool) : Parser (List SyntaxTree) := do
  match ← peek (afterSuite inBlock) with
  | .word "if" => return [← ifStatement self inBlock]
  | .word "for" => return [← node .statement (forStatement self inBlock)]
  | .word "while" => return [← whileStatement self inBlock]
  | .word "try" => return [← tryStatement self inBlock]
  | .word "with" => return [← node .statement (withStatement self)]
  | .word "def" => return [← build (functionDefinition self)]
  | .word "class" => return [← classDefinition self]
  | .operator "@" => return [← decoratedDefinition self]
  | .word "async" => (do return [← asyncStatement self inBlock]) <|> simpleStatements self
  | .word "match" => simpleStatements self <|> (do return [← matchStatement self])
  | _ => simpleStatements self

end

end MarkerReport.Python
