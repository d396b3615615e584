import MarkerReport.Text.Utf8
import MarkerReport.Yaml.Scalar

/-! # Anchors, tags and directives of a YAML stream -/

namespace MarkerReport.Yaml

/-- The text of glyphs. -/
def textOf (glyphs : List Glyph) : List Char := glyphs.map Glyph.char

/-- The name that comes next, and what follows it. -/
def name (glyphs : List Glyph) : String × List Glyph :=
  (String.ofList (textOf (glyphs.takeWhile fun glyph => isNameChar glyph.char)),
    glyphs.dropWhile fun glyph => isNameChar glyph.char)

/-- Whether something comes next that may follow the name of an anchor. -/
def endsAnchor : List Glyph → Bool
  | [] => true
  | glyph :: _ =>
      glyph.isBlank || glyph.isBreak ||
        ['?', ':', ',', ']', '\x7d', '%', '@', '\x60'].contains glyph.char

/-- Reads the name of an anchor or of an alias after its sign. -/
def anchorName (glyphs : List Glyph) : Option (String × List Glyph) :=
  let (found, rest) := name glyphs
  if found = "" || !endsAnchor rest then none else some (found, rest)

/-- Whether a character may stand in a tag. In a tag between angle brackets, and in the expansion of
a handle, commas and brackets may too. -/
def isTagChar (verbatim : Bool) (c : Char) : Bool :=
  isNameChar c ||
    [';', '/', '?', ':', '@', '&', '=', '+', '$', '.', '%', '!', '~', '*', '\'', '(', ')'].contains
      c ||
    (verbatim && [',', '[', ']'].contains c)

/-- The bytes of a tag in which bytes may be written as a percent sign and two digits. -/
def tagBytes? : List Char → Option (List UInt8)
  | [] => some []
  | '%' :: high :: low :: rest =>
      match hexValue? high, hexValue? low, tagBytes? rest with
      | some high, some low, some later => some (UInt8.ofNat (16 * high + low) :: later)
      | _, _, _ => none
  | c :: rest =>
      if c == '%' then none
      else
        match tagBytes? rest with
        | some later => some (UInt8.ofNat c.toNat :: later)
        | none => none

/-- The text of a tag in which bytes may be written as a percent sign and two digits. -/
def tagText? (text : List Char) : Option String :=
  match tagBytes? text with
  | none => none
  | some bytes =>
      match Utf8.decode bytes with
      | .ok text => some (String.ofList text)
      | .error _ => none

/-- Reads the text of a tag. It may be empty only if something came before it. -/
def tagUri (verbatim mayBeEmpty : Bool) (glyphs : List Glyph) : Option (String × List Glyph) :=
  let taken := glyphs.takeWhile fun glyph => isTagChar verbatim glyph.char
  if taken.isEmpty && !mayBeEmpty then none
  else
    match tagText? (textOf taken) with
    | some text => some (text, glyphs.dropWhile fun glyph => isTagChar verbatim glyph.char)
    | none => none

/-- Reads a tag between angle brackets, after the opening one. -/
def verbatimTag (glyphs : List Glyph) : Option (Token × List Glyph) :=
  match tagUri true false glyphs with
  | some (uri, close :: rest) => if close.char == '>' then some (.tag "" uri, rest) else none
  | _ => none

/-- Reads a tag that starts with a handle, after the exclamation mark. The tag that is an
exclamation mark and nothing else has no handle. -/
def handleTag (glyphs : List Glyph) : Option (Token × List Glyph) :=
  let (found, rest) := name glyphs
  if atChar '!' rest then
    match tagUri false false (rest.drop 1) with
    | some (suffix, rest) => some (.tag ("!" ++ found ++ "!") suffix, rest)
    | none => none
  else
    match tagUri false true rest with
    | some (suffix, rest) =>
        let whole := found ++ suffix
        some (if whole = "" then .tag "" "!" else .tag "!" whole, rest)
    | none => none

/-- Reads a tag after its exclamation mark. A blank must follow it, or, in a flow collection, a
comma. -/
def tag (inFlow : Bool) (glyphs : List Glyph) : Option (Token × List Glyph) :=
  match if atChar '<' glyphs then verbatimTag (glyphs.drop 1) else handleTag glyphs with
  | some (token, rest) =>
      if atGap rest || (inFlow && atChar ',' rest) then some (token, rest) else none
  | none => none

/-- Reads a number of at most nine digits. -/
def versionNumber (glyphs : List Glyph) : Option (Nat × List Glyph) :=
  let digits := glyphs.takeWhile fun glyph => glyph.char.isDigit
  if digits.isEmpty || digits.length > 9 then none
  else
    some (digits.foldl (fun n glyph => 10 * n + (glyph.char.toNat - 48)) 0,
      glyphs.dropWhile fun glyph => glyph.char.isDigit)

/-- Reads the version that a directive names. -/
def versionDirective (glyphs : List Glyph) : Option (Token × List Glyph) := do
  let (major, rest) ← versionNumber (glyphs.dropWhile Glyph.isBlank)
  if !atChar '.' rest then none
  else
    let (minor, rest) ← versionNumber (rest.drop 1)
    some (.version major minor, rest)

/-- Reads the handle and the expansion that a directive names. -/
def tagDirective (glyphs : List Glyph) : Option (Token × List Glyph) := do
  let rest := glyphs.dropWhile Glyph.isBlank
  if !atChar '!' rest then none
  else
    let (found, rest) := name (rest.drop 1)
    let closed := atChar '!' rest
    if !closed && found ≠ "" then none
    else
      let rest := if closed then rest.drop 1 else rest
      if !rest.head?.any Glyph.isBlank then none
      else
        let (expansion, rest) ← tagUri true false (rest.dropWhile Glyph.isBlank)
        if !atGap rest then none
        else some (.tagHandle (if closed then "!" ++ found ++ "!" else "!") expansion, rest)

/-- Reads a directive after its percent sign, with the rest of its line. -/
def directive (glyphs : List Glyph) : Option (Token × List Glyph) := do
  let (found, rest) := name glyphs
  if !atGap rest then none
  else
    let (token, rest) ←
      if found = "YAML" then versionDirective rest
      else if found = "TAG" then tagDirective rest
      else none
    let rest ← restOfLine rest
    some (token, rest)

end MarkerReport.Yaml
