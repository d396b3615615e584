import MarkerReport.Yaml.Scalar

/-! # Texts that read as something else than text

A plain scalar may mean a truth value, the empty value or a number. A text that would be taken for
one of these is not written as a plain scalar.
-/

namespace MarkerReport.Yaml

/-- Whether a plain scalar is the empty value. -/
def isNull (text : String) : Bool := ["null", "Null", "NULL", "~"].contains text

/-- The truth value that a plain scalar is. -/
def bool? (text : String) : Option Bool :=
  if ["true", "True", "TRUE"].contains text then some true
  else if ["false", "False", "FALSE"].contains text then some false
  else none

/-- Drops one of the given signs in front. -/
def dropSign (signs : List Char) : List Char → List Char
  | [] => []
  | c :: rest => if signs.contains c then rest else c :: rest

/-- Whether a text is a sequence of digits with zeros in front, perhaps behind a sign. -/
def isPadded (text : List Char) : Bool :=
  match dropSign ['-', '+'] text with
  | '0' :: rest => !rest.isEmpty && rest.all Char.isDigit
  | _ => false

/-- The value of digits in a base. -/
def natOfDigits? (base : Nat) (digits : List Char) : Option Nat :=
  if digits.isEmpty then none
  else
    digits.foldl (fun value c =>
      match value, hexValue? c with
      | some n, some digit => if digit < base then some (base * n + digit) else none
      | _, _ => none) (some 0)

/-- The base that the letters after a leading zero stand for. -/
def radix? : List Char → Option (Nat × List Char)
  | '0' :: 'x' :: rest => some (16, rest)
  | '0' :: 'o' :: rest => some (8, rest)
  | '0' :: 'b' :: rest => some (2, rest)
  | _ => none

/-- Whether digits in a base are a number of at most a given size. -/
def fits (limit base : Nat) (digits : List Char) : Bool :=
  (natOfDigits? base digits).any (· ≤ limit)

/-- Whether digits behind an optional sign for a base are an integer of at most a given size. -/
def isMagnitude (limit : Nat) (digits : List Char) : Bool :=
  match radix? digits with
  | some (base, rest) => fits limit base rest
  | none => fits limit 10 digits

/-- Whether a text is an integer of at most 128 bits. -/
def isInteger (text : List Char) : Bool :=
  match text with
  | '-' :: digits => isMagnitude (Nat.pow 2 127) digits && !isPadded text
  | '+' :: digits => isMagnitude (Nat.pow 2 128 - 1) digits && !isPadded text
  | digits => isMagnitude (Nat.pow 2 128 - 1) digits && !isPadded text

/-- A decimal number: its digits and the power of ten behind them. -/
structure Decimal where
  digits : List Char
  exponent : Int
deriving Repr, DecidableEq, Inhabited

/-- Reads the exponent of a decimal number. -/
def exponent? : List Char → Option Int
  | [] => some 0
  | mark :: rest =>
      if mark == 'e' || mark == 'E' then
        match rest with
        | '-' :: digits => (natOfDigits? 10 digits).map fun n => -(n : Int)
        | '+' :: digits => (natOfDigits? 10 digits).map Int.ofNat
        | digits => (natOfDigits? 10 digits).map Int.ofNat
      else none

/-- Reads a decimal number without a sign: digits, with or without a point among, before or behind
them, and an exponent. -/
def decimal? (text : List Char) : Option Decimal :=
  let whole := text.takeWhile Char.isDigit
  let rest := text.dropWhile Char.isDigit
  let (fraction, rest) :=
    match rest with
    | '.' :: behind => (behind.takeWhile Char.isDigit, behind.dropWhile Char.isDigit)
    | _ => ([], rest)
  if whole.isEmpty && fraction.isEmpty then none
  else (exponent? rest).map fun exponent => ⟨whole ++ fraction, exponent - fraction.length⟩

/-- The least number that rounds to a double of infinite size. -/
def doubleLimit : Nat := Nat.pow 2 1024 - Nat.pow 2 970

/-- Whether a decimal number is small enough for a double. -/
def Decimal.isFinite (number : Decimal) : Bool :=
  let digits := number.digits.dropWhile (· == '0')
  let order : Int := digits.length + number.exponent
  if digits.isEmpty || order < 300 then true
  else if order > 310 then false
  else
    let value := (natOfDigits? 10 digits).getD 0
    match number.exponent with
    | .ofNat power => value * Nat.pow 10 power < doubleLimit
    | .negSucc power => value < doubleLimit * Nat.pow 10 (power + 1)

/-- Whether a text is a floating-point number. -/
def isFloat (text : List Char) : Bool :=
  let unsigned := dropSign ['+'] text
  let positive := text.head? == some '+'
  if positive && (unsigned.head? == some '+' || unsigned.head? == some '-') then false
  else
    [".inf", ".Inf", ".INF"].any (·.toList == unsigned) ||
      ["-.inf", "-.Inf", "-.INF", ".nan", ".NaN", ".NAN"].any (·.toList == text) ||
      (decimal? (dropSign ['-'] unsigned)).any Decimal.isFinite

/-- Whether a text, as a plain scalar, would be taken for something else than a text, or looks like
a number that it is not. -/
def isAmbiguous (text : String) : Bool :=
  text.isEmpty || isNull text || (bool? text).isSome || isPadded text.toList ||
    isInteger text.toList || isFloat text.toList

end MarkerReport.Yaml
