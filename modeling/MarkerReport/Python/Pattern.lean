import MarkerReport.Python.Expression

/-! # Patterns of cases -/

namespace MarkerReport.Python

open MarkerReport.Python.Parser

section

variable (self : ∀ {α : Type}, Goal α → Parser α)

/-- Patterns separated by commas, up to the operator `stop`, which is taken. -/
def patternsUntil (part : Parser SyntaxTree) (stop : String) : Parser (List SyntaxTree) := do
  let expect : Expect := { string := true, close := true }
  if ← tryOperator expect stop then return []
  else
    let first ← part
    let later ← many do
      if ← tryOperator { close := true } "," then
        if (← peek expect).isOperator stop then return some [] else return some [← part]
      else return none
    takeOperator { close := true } stop
    return first :: later.flatten

/-- A key with the pattern of its value, or a doubly starred name. -/
def patternEntry : Parser SyntaxTree := do
  let key ← self (.pattern true)
  if key.kind == .splat then return key
  else
    takeOperator { close := true } ":"
    return wrap .expression key [← self (.pattern true)]

/-- A dotted name, alone or with patterns for the parts of what it names. -/
def namePattern (after : Expect) : Parser SyntaxTree := do
  let (_, name) ← takeName .operand
  let dotted ← many do
    if ← tryOperator after "." then return some (← takeName .plain).2 else return none
  let whole := if dotted.isEmpty then name else wrap .attribute name dotted
  if ← tryOperator after "(" then
    return wrap .call whole (← patternsUntil (self (.pattern true)) ")")
  else return whole

/-- A number with an optional sign, or the sum of two. -/
def numberPattern (after : Expect) : Parser SyntaxTree :=
  node .literal do
    discard (tryOperator .operand "-")
    match ← peek .plain with
    | .number =>
        discard advance
        let token ← peek after
        if token.isOperator "+" || token.isOperator "-" then
          discard advance
          match ← peek .plain with
          | .number => return [← leaf .literal]
          | _ => failure
        else return []
    | _ => failure

/-- A pattern without alternatives. -/
def simplePattern (close : Bool) : Parser SyntaxTree := do
  let after : Expect := { close }
  match ← peek .operand with
  | .word text =>
      if ["None", "True", "False"].contains text then leaf .literal
      else namePattern self after
  | .number => numberPattern after
  | .mark (.stringStart opening ..) => strings self opening { close }
  | .operator "-" => numberPattern after
  | .operator "*" | .operator "**" =>
      node .splat do
        discard advance
        return [(← takeName .plain).2]
  | .operator "[" =>
      node .list do
        discard advance
        patternsUntil (self (.pattern true)) "]"
  | .operator "(" =>
      node .tuple do
        discard advance
        patternsUntil (self (.pattern true)) ")"
  | .operator "\x7b" =>
      node .expression do
        discard advance
        patternsUntil (patternEntry self) "\x7d"
  | _ => failure

/-- Patterns of which one has to match, separated by bars. -/
def alternatives (close : Bool) : Parser SyntaxTree := do
  let first ← simplePattern self close
  let later ← many do
    if ← tryOperator { close } "|" then return some (← simplePattern self close) else return none
  return if later.isEmpty then first else wrap .expression first later

/-- A pattern: alternatives, the value of a named part, or a pattern that is given a name. -/
def pattern (close : Bool) : Parser SyntaxTree := do
  let after : Expect := { close }
  let first ← alternatives self close
  let found ←
    if first.kind == .identifier && (← peek after).isOperator "=" then do
      discard advance
      pure (wrap .expression first [← alternatives self close])
    else pure first
  if ← tryWord after "as" then
    return wrap .expression found [(← takeName .plain).2]
  else return found

end

end MarkerReport.Python
