/-! # JSON documents

The values that a report is made of, and their printed form: one member or element a line, two
blanks for every level.
-/

namespace MarkerReport.Json

/-- A value of a JSON document. Members of an object stay in order. -/
inductive Value where
  | number (n : Nat)
  | string (text : String)
  | array (elements : List Value)
  | object (members : List (String × Value))
deriving Repr, Inhabited

/-- A hexadecimal digit. -/
def hexDigit (n : Nat) : Char := if n < 10 then Char.ofNat (48 + n) else Char.ofNat (87 + n)

/-- The characters that stand for a character in a string. Only quotes, backslashes and control
characters are written in another way. -/
def escape (c : Char) : List Char :=
  if c = '"' then ['\\', '"']
  else if c = '\\' then ['\\', '\\']
  else if c = '\x08' then ['\\', 'b']
  else if c = '\t' then ['\\', 't']
  else if c = '\n' then ['\\', 'n']
  else if c = '\x0c' then ['\\', 'f']
  else if c = '\r' then ['\\', 'r']
  else if c.toNat < 32 then
    ['\\', 'u', '0', '0', hexDigit (c.toNat / 16), hexDigit (c.toNat % 16)]
  else [c]

/-- A text as a string of a document. -/
def quote (text : String) : List Char := '"' :: text.toList.flatMap escape ++ ['"']

/-- A line break and the blanks of a level. -/
def newLine (level : Nat) : List Char := '\n' :: List.replicate (2 * level) ' '

mutual

/-- The printed form of a value on a level. -/
def Value.print (level : Nat) : Value → List Char
  | .number n => Nat.toDigits 10 n
  | .string text => quote text
  | .array [] => ['[', ']']
  | .array (first :: later) =>
      '[' :: newLine (level + 1) ++ first.print (level + 1) ++ printElements level later
  | .object [] => ['\x7b', '\x7d']
  | .object ((key, value) :: later) =>
      '\x7b' :: newLine (level + 1) ++ quote key ++ [':', ' '] ++ value.print (level + 1) ++
        printMembers level later

/-- The printed form of the elements of an array after the first one, and its end. -/
def printElements (level : Nat) : List Value → List Char
  | [] => newLine level ++ [']']
  | element :: later =>
      ',' :: newLine (level + 1) ++ element.print (level + 1) ++ printElements level later

/-- The printed form of the members of an object after the first one, and its end. -/
def printMembers (level : Nat) : List (String × Value) → List Char
  | [] => newLine level ++ ['\x7d']
  | (key, value) :: later =>
      ',' :: newLine (level + 1) ++ quote key ++ [':', ' '] ++ value.print (level + 1) ++
        printMembers level later

end

end MarkerReport.Json
