import MarkerReport.Python.Literal

/-! # Expressions

Operators are parsed by their kind and not by their strength: how tightly they bind decides neither
whether a text is an expression nor where its parts start.
-/

namespace MarkerReport.Python

open MarkerReport.Python.Parser

/-- Whether an expression is a place: a name, an attribute or an element. -/
def isPlace (tree : SyntaxTree) : Bool :=
  tree.kind == .identifier || tree.kind == .attribute || tree.kind == .subscript

/-- Whether a node is a comment or a continuation. -/
def isTrivial (tree : SyntaxTree) : Bool := tree.kind == .comment || tree.kind == .continuation

/-- Whether a star may stand before an operand: before a place, perhaps with calls behind it. -/
def isSpreadable : SyntaxTree → Bool
  | .node .call _ _ _ (base :: _) => isSpreadable base
  | tree => isPlace tree

mutual

/-- Whether an expression can be assigned to: a place, a starred place, or a sequence of things that
can be assigned to. -/
def isAssignable : SyntaxTree → Bool
  | .node kind _ _ _ children =>
      match kind with
      | .identifier | .attribute | .subscript => true
      | .splat => children.all fun child => isTrivial child || isPlace child
      | .list | .tuple | .parenthesized => areAssignable children
      | _ => false

/-- Whether all of the expressions can be assigned to, comments and continuations aside. -/
def areAssignable : List SyntaxTree → Bool
  | [] => true
  | tree :: later => (isTrivial tree || isAssignable tree) && areAssignable later

end

section

variable (self : ∀ {α : Type}, Goal α → Parser α)

/-- Expressions separated by commas. A comma may follow the last one. -/
def expressionList (context : Context) : Parser (List SyntaxTree) := do
  let first ← self (.expression context)
  let later ← many do
    if ← tryOperator (context.after false) "," then
      let token ← peek { context.after false with string := true }
      if token.startsExpression then return some [← self (.expression context)] else return some []
    else return none
  return first :: later.flatten

/-- A `yield` with what it yields. -/
def yieldExpression (context : Context) : Parser SyntaxTree :=
  node .expression do
    discard advance
    if ← tryWord { context.after false with string := true } "from" then
      return [← self (.expression context)]
    else
      let token ← peek { context.after false with string := true }
      if token.startsExpression then expressionList self context else return []

/-- A starred expression. -/
def starred (context : Context) : Parser SyntaxTree :=
  node .splat do
    discard advance
    return [← self (.expression context)]

/-- An element of a list, a set or a tuple. -/
def element : Parser SyntaxTree := do
  let token ← peek { string := true, close := true }
  if token.isWord "yield" then yieldExpression self .bracket
  else if token.isOperator "*" then starred self .bracket
  else self (.expression .bracket)

/-- What is assigned to by a loop: targets separated by commas. -/
def targetList : Parser (List SyntaxTree) := do
  let first ← self (.target .inner)
  let later ← many do
    if ← tryOperator .plain "," then
      let token ← peek .operand
      if token.startsExpression then return some [← self (.target .inner)] else return some []
    else return none
  return first :: later.flatten

/-- The clauses of a comprehension, up to its closing bracket. -/
def comprehensionClauses : Parser (List SyntaxTree) := do
  let context : Context := { close := true, conditional := false }
  many do
    let token ← peek (context.after false)
    if token.isWord "for" || token.isWord "async" then
      return some (← node .clause do
        discard (tryWord (context.after false) "async")
        takeWord .plain "for"
        let targets ← targetList self
        takeWord .plain "in"
        return targets ++ (← expressionList self context))
    else if token.isWord "if" then
      return some (← node .clause do
        discard advance
        return [← self (.expression context)])
    else return none

/-- Whether a comprehension clause comes next. -/
def startsClause (token : Token) : Bool := token.isWord "for" || token.isWord "async"

/-- The elements of a list, a set or a tuple behind the first one, up to the closing bracket, and
whether there was a comma. -/
def laterElements (close : String) : Parser (List SyntaxTree × Bool) := do
  let parts ← many do
    if ← tryOperator { close := true } "," then
      let token ← peek { string := true, close := true }
      if token.isOperator close then return some [] else return some [← element self]
    else return none
  takeOperator { close := true } close
  return (parts.flatten, !parts.isEmpty)

/-- Something in round brackets: a tuple, a generator or a single expression. -/
def roundBrackets : Parser SyntaxTree :=
  build do
    discard advance
    let token ← peek { string := true, close := true }
    if token.isOperator ")" then
      discard advance
      return (.tuple, none, [])
    else
      let first ← element self
      if startsClause (← peek { close := true }) && !token.isWord "yield" then
        let clauses ← comprehensionClauses self
        takeOperator { close := true } ")"
        return (.expression, none, first :: clauses)
      else
        let (later, comma) ← laterElements self ")"
        return (if comma then .tuple else .parenthesized, none, first :: later)

/-- Something in square brackets: a list or a list comprehension. -/
def squareBrackets : Parser SyntaxTree :=
  build do
    discard advance
    let token ← peek { string := true, close := true }
    if token.isOperator "]" then
      discard advance
      return (.list, none, [])
    else
      let first ← element self
      if startsClause (← peek { close := true }) && !token.isWord "yield" then
        let clauses ← comprehensionClauses self
        takeOperator { close := true } "]"
        return (.expression, none, first :: clauses)
      else
        let (later, _) ← laterElements self "]"
        return (.list, none, first :: later)

/-- A key, which was read already, and its value. -/
def keyValue (key : SyntaxTree) : Parser SyntaxTree := do
  discard advance
  return wrap .expression key [← self (.expression .bracket)]

/-- An entry of a dictionary: a key with its value, or a doubly starred expression. -/
def entry : Parser SyntaxTree := do
  let token ← peek { string := true, close := true }
  if token.isOperator "**" then starred self .bracket
  else
    let key ← self (.expression .bracket)
    if (← peek { close := true }).isOperator ":" then keyValue self key else failure

/-- The entries of a dictionary behind the first one, up to the closing brace. -/
def laterEntries : Parser (List SyntaxTree) := do
  let parts ← many do
    if ← tryOperator { close := true } "," then
      let token ← peek { string := true, close := true }
      if token.isOperator "\x7d" then return some [] else return some [← entry self]
    else return none
  takeOperator { close := true } "\x7d"
  return parts.flatten

/-- Something in braces: a dictionary, a set or a comprehension of one. -/
def braces : Parser SyntaxTree :=
  node .expression do
    discard advance
    let token ← peek { string := true, close := true }
    if token.isOperator "\x7d" then
      discard advance
      return []
    else if token.isOperator "," then
      discard advance
      takeOperator { close := true } "\x7d"
      return []
    else if token.isOperator "**" then
      let first ← entry self
      return first :: (← laterEntries self)
    else
      let first ← element self
      let alone := token.isWord "yield"
      let token ← peek { close := true }
      if token.isOperator ":" && !alone then
        let pair ← keyValue self first
        if startsClause (← peek { close := true }) then
          let clauses ← comprehensionClauses self
          takeOperator { close := true } "\x7d"
          return pair :: clauses
        else return pair :: (← laterEntries self)
      else if startsClause token && !alone then
        let clauses ← comprehensionClauses self
        takeOperator { close := true } "\x7d"
        return first :: clauses
      else
        let (later, _) ← laterElements self "\x7d"
        return first :: later

/-- An argument of a call, and whether it is an expression by itself: neither named nor doubly
starred. -/
def argument : Parser (SyntaxTree × Bool) := do
  let token ← peek { string := true, close := true }
  if token.isOperator "*" || token.isOperator "**" then
    return (← starred self .bracket, token.isOperator "*")
  else
    let value ← self (.expression .bracket)
    if value.kind == .identifier && (← peek { close := true }).isOperator "=" then
      discard advance
      return (wrap .expression value [← self (.expression .bracket)], false)
    else return (value, true)

/-- The arguments of a call behind the first one, up to the closing bracket. -/
def laterArguments : Parser (List SyntaxTree) := do
  let later ← many do
    if ← tryOperator { close := true } "," then
      let token ← peek { string := true, close := true }
      if token.isOperator ")" then return some [] else return some [(← argument self).1]
    else return none
  takeOperator { close := true } ")"
  return later.flatten

/-- The arguments of a call in their brackets, which may hold a single comma, or a generator if
`generator` says so. -/
def callArguments (generator : Bool) : Parser SyntaxTree :=
  node .arguments do
    discard advance
    let token ← peek { string := true, close := true }
    if token.isOperator ")" then
      discard advance
      return []
    else if token.isOperator "," then
      discard advance
      takeOperator { close := true } ")"
      return []
    else
      let (first, alone) ← argument self
      if generator && alone && startsClause (← peek { close := true }) then
        let clauses ← comprehensionClauses self
        takeOperator { close := true } ")"
        return first :: clauses
      else return first :: (← laterArguments self)

/-- The bounds of a slice, from its first colon on. -/
def sliceBounds : Parser (List SyntaxTree) := do
  let bounds ← many do
    if ← tryOperator { close := true } ":" then
      let token ← peek { string := true, close := true }
      if token.startsExpression then return some [← self (.expression .bracket)]
      else return some []
    else return none
  if bounds.length ≤ 2 then return bounds.flatten else failure

/-- An index or a slice. -/
def indexOrSlice : Parser SyntaxTree := do
  let token ← peek .operand
  if token.isOperator ":" then node .expression (sliceBounds self)
  else
    let lower ← self (.expression .bracket)
    if (← peek { close := true }).isOperator ":" then
      return wrap .expression lower (← sliceBounds self)
    else return lower

/-- The indices of an element in their brackets. -/
def indices : Parser (List SyntaxTree) := do
  discard advance
  let first ← indexOrSlice self
  let later ← many do
    if ← tryOperator { close := true } "," then
      let token ← peek { string := true, close := true }
      if token.isOperator "]" then return some [] else return some [← indexOrSlice self]
    else return none
  takeOperator { close := true } "]"
  return first :: later.flatten

/-- An expression that is not split by operators: a name, a literal, or something in brackets. -/
def atom (context : Context) : Parser SyntaxTree := do
  match ← peek .operand with
  | .word text =>
      if ["None", "True", "False"].contains text then leaf .literal
      else if reservedWords.contains text then failure
      else leaf .identifier
  | .number => leaf .literal
  | .mark (.stringStart opening ..) => strings self opening context
  | .operator "..." => leaf .literal
  | .operator "(" => roundBrackets self
  | .operator "[" => squareBrackets self
  | .operator "\x7b" => braces self
  | _ => failure

/-- An atom with the attributes, calls and indices behind it. -/
def primary (context : Context) : Parser SyntaxTree := do
  let first ← atom self context
  let expect := context.after (first.kind == .string)
  manyFrom (fun base => do
    match ← peek expect with
    | .operator "." =>
        discard advance
        let (_, name) ← takeName .plain
        return some (wrap .attribute base [name])
    | .operator "(" => return some (wrap .call base [← callArguments self true])
    | .operator "[" => return some (wrap .subscript base (← indices self))
    | _ => return none) first

/-- An operand with the signs before it. -/
def operand (context : Context) : Parser SyntaxTree := do
  match ← peek .operand with
  | .operator text =>
      if ["+", "-", "~"].contains text then
        node .expression do
          discard advance
          return [← self (.operand context)]
      else if text == "*" then
        node .splat do
          discard advance
          let found ← primary self context
          if isSpreadable found then return [found] else failure
      else primary self context
  | .word "await" =>
      (node .expression do
        discard advance
        let token ← peek (context.after true)
        if token.startsExpression && !token.isWord "not" && !token.isWord "lambda" then
          return [← self (.operand context)]
        else failure) <|> primary self context
  | _ => primary self context

/-- Whether a token joins two operands to one. -/
def isJoiner : Token → Bool
  | .operator text =>
      ["+", "-", "*", "@", "/", "%", "//", "**", "|", "&", "^", "<<", ">>"].contains text
  | _ => false

/-- Operands joined by arithmetic and bitwise operators. -/
def arithmetic (context : Context) : Parser SyntaxTree := do
  let first ← self (.operand context)
  let later ← many do
    if isJoiner (← peek (context.after false)) then
      discard advance
      return some (← self (.operand context))
    else return none
  return if later.isEmpty then first else wrap .expression first later

/-- Takes a comparison operator if one comes next. -/
def tryComparison (context : Context) : Parser Bool := do
  match ← peek (context.after false) with
  | .operator text =>
      if ["<", "<=", "==", "!=", ">=", ">", "<>"].contains text then
        discard advance
        return true
      else return false
  | .word "in" =>
      discard advance
      return true
  | .word "is" =>
      discard advance
      discard (tryWord .operand "not")
      return true
  | .word "not" =>
      discard advance
      takeWord .plain "in"
      return true
  | _ => return false

/-- A comparison, or a name with a value assigned to it on the way. -/
def comparison (context : Context) : Parser SyntaxTree := do
  let first ← arithmetic self context
  if first.kind == .identifier && (← peek (context.after false)).isOperator ":=" then
    discard advance
    return wrap .expression first [← self (.expression context)]
  else
    let later ← many do
      if ← tryComparison context then
        return some (← arithmetic self context)
      else return none
    return if later.isEmpty then first else wrap .expression first later

/-- What may follow the name of a parameter, behind a sign: its type or its default value. -/
def parameterPart (after : Expect) (sign : String) : Parser (List SyntaxTree) := do
  if ← tryOperator after sign then return [← self (.expression { close := after.close })]
  else return []

/-- A star or two with the name of a parameter. A single star may stand alone. `typed` tells whether
parameters may have types. -/
def starredParameter (after : Expect) (typed : Bool) : Parser SyntaxTree := do
  let optional := (← peek after).isOperator "*"
  let star ← node .splat do
    discard advance
    let token ← peek { after with string := true }
    if token.isName then
      let found ← primary self { close := after.close }
      if isPlace found then return [found] else failure
    else if optional then return []
    else failure
  if typed && star.children.any isPlace then
    return wrap .expression star (← parameterPart self after ":")
  else return star

/-- A parameter of a function. `typed` tells whether parameters may have types. -/
def parameter (after : Expect) (typed : Bool) : Parser SyntaxTree := do
  match ← peek after with
  | .operator "*" | .operator "**" => starredParameter self after typed
  | .operator "/" => leaf .expression
  | .operator "(" =>
      let parts ← roundBrackets self
      if isAssignable parts then return wrap .expression parts (← parameterPart self after "=")
      else failure
  | _ =>
      let (_, name) ← takeName after
      let typeOf ← if typed then parameterPart self after ":" else pure []
      return wrap .expression name (typeOf ++ (← parameterPart self after "="))

/-- Parameters separated by commas, up to the token `stop`. -/
def parameterList (after : Expect) (typed : Bool) (stop : String) :
    Parser (List SyntaxTree) := do
  if (← peek after).isOperator stop then return []
  else
    let first ← parameter self after typed
    let later ← many do
      if ← tryOperator after "," then
        if (← peek after).isOperator stop then return some []
        else return some [← parameter self after typed]
      else return none
    return first :: later.flatten

/-- An anonymous function. -/
def anonymousFunction (context : Context) : Parser SyntaxTree :=
  node .expression do
    discard advance
    let parameters ← parameterList self .plain false ":"
    takeOperator .plain ":"
    return parameters ++ [← self (.expression context)]

/-- An expression without connectives. -/
def inversion (context : Context) : Parser SyntaxTree := do
  match ← peek .operand with
  | .word "not" =>
      node .expression do
        discard advance
        return [← self (.inversion context)]
  | .word "lambda" => anonymousFunction self context
  | _ => comparison self context

/-- Expressions joined by connectives. -/
def disjunction (context : Context) : Parser SyntaxTree := do
  let first ← self (.inversion context)
  let later ← many do
    let token ← peek (context.after false)
    if token.isWord "and" || token.isWord "or" then
      discard advance
      return some (← self (.inversion context))
    else return none
  return if later.isEmpty then first else wrap .expression first later

/-- An expression. -/
def expression (context : Context) : Parser SyntaxTree := do
  let first ← disjunction self context
  let token ← peek (context.after false)
  if token.isWord "if" && context.conditional then
    discard advance
    let condition ← self (.expression .inner)
    takeWord .plain "else"
    return wrap .expression first [condition, ← self (.expression context)]
  else if token.isWord "as" then
    discard advance
    return wrap .expression first [← self (.expression context)]
  else return first

/-- Something that can be assigned to. -/
def target (context : Context) : Parser SyntaxTree := do
  let token ← peek .operand
  let found ←
    if token.isOperator "*" then
      node .splat do
        discard advance
        return [← primary self context]
    else primary self context
  if isAssignable found then return found else failure

/-- An expression in braces inside a string, with the conversion and the format behind it. -/
def interpolation : Parser SyntaxTree :=
  node .interpolation do
    takeOperator .plain "\x7b"
    let token ← peek .operand
    let value ←
      if token.isWord "yield" then do pure [← yieldExpression self .bracket]
      else expressionList self .bracket
    discard (tryOperator { close := true } "=")
    let conversion ←
      match ← peek { close := true } with
      | .conversion => do pure [← leaf .expression]
      | _ => pure []
    let specifier ←
      if (← peek { close := true }).isOperator ":" then do pure [← formatSpecifier self]
      else pure []
    takeOperator { close := true } "\x7d"
    return value ++ conversion ++ specifier

end

end MarkerReport.Python
