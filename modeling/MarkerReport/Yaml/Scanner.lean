import MarkerReport.Yaml.Property

/-! # Tokens out of the characters of a YAML stream

Block collections have no brackets; indentation opens and closes them. The scanner keeps the column
at which the content of the innermost block collection starts at the earliest, and puts tokens for
the start and the end of a collection where the indentation changes.

A key is known as such only by the colon behind it. Where a key may start, the scanner remembers the
place, and when a colon follows on the same line and not too far away, it puts the token for the key
in front of what it has read since.
-/

namespace MarkerReport.Yaml

/-- A place at which a key may have started. -/
structure KeyStart where
  /-- Whether nothing but a key can stand there. -/
  required : Bool
  /-- How many tokens come before it. -/
  number : Nat
  glyph : Glyph
deriving Repr, Inhabited

/-- A stream of which some tokens have been read. -/
structure Scanner where
  rest : List Glyph
  /-- The tokens that have been read, the last one first. -/
  tokens : List Token := []
  /-- The column at which the content of the innermost block collection starts at the earliest. -/
  margin : Nat := 0
  /-- The same for the collections around it, the innermost first. -/
  margins : List Nat := []
  /-- Where a key may have started on the current level. -/
  keyStart : Option KeyStart := none
  /-- The same for the levels around the current flow collection, the innermost first. -/
  outer : List (Option KeyStart) := []
  /-- Whether a key may start here. -/
  keyAllowed : Bool := true
deriving Repr, Inhabited

namespace Scanner

/-- Whether the scanner is in a flow collection. -/
def inFlow (scanner : Scanner) : Bool := !scanner.outer.isEmpty

/-- Appends a token. -/
def push (scanner : Scanner) (token : Token) : Scanner :=
  { scanner with tokens := token :: scanner.tokens }

/-- Closes the block collections whose content would have to start after a column, given as one more
than the column. -/
def closeBlocks (least : Nat) : (tokens : List Token) → (margin : Nat) → List Nat →
    List Token × Nat × List Nat
  | tokens, margin, [] => (tokens, margin, [])
  | tokens, margin, around :: margins =>
      if margin > least then closeBlocks least (.blockEnd :: tokens) around margins
      else (tokens, margin, around :: margins)

/-- Closes the block collections to which content with the given margin does not belong. -/
def unroll (scanner : Scanner) (least : Nat) : Scanner :=
  if scanner.inFlow then scanner
  else
    let (tokens, margin, margins) := closeBlocks least scanner.tokens scanner.margin scanner.margins
    { scanner with tokens, margin, margins }

/-- Whether content at a column opens a new block collection. -/
def opensBlock (scanner : Scanner) (column : Nat) : Bool :=
  !scanner.inFlow && scanner.margin ≤ column

/-- Opens a block collection at a column, if content there opens one. -/
def roll (scanner : Scanner) (column : Nat) (start : Token) : Scanner :=
  if scanner.opensBlock column then
    { scanner.push start with margin := column + 1, margins := scanner.margin :: scanner.margins }
  else scanner

/-- Gives up the place at which a key may have started, unless a key has to stand there. -/
def dropKey (scanner : Scanner) : Option Scanner :=
  match scanner.keyStart with
  | some start => if start.required then none else some { scanner with keyStart := none }
  | none => some scanner

/-- Remembers that a key may start at a glyph. -/
def saveKey (scanner : Scanner) (glyph : Glyph) : Option Scanner :=
  if scanner.keyAllowed then
    match scanner.dropKey with
    | some dropped =>
        some { dropped with
          keyStart := some
            { required := !scanner.inFlow && scanner.margin == glyph.column + 1
              number := scanner.tokens.length
              glyph } }
    | none => none
  else some scanner

/-- Moves on, with or without leave to start a key. -/
def moveTo (scanner : Scanner) (rest : List Glyph) (keyAllowed : Bool) : Scanner :=
  { scanner with rest, keyAllowed }

/-- Puts the token for a key, and the start of the mapping it may open, in front of the tokens read
since the key started. -/
def insertKey (scanner : Scanner) (start : KeyStart) : Scanner :=
  let since := scanner.tokens.length - start.number
  let opens := scanner.opensBlock start.glyph.column
  let inserted := if opens then [Token.key, .blockMappingStart] else [.key]
  let tokens := scanner.tokens.take since ++ inserted ++ scanner.tokens.drop since
  if opens then
    { scanner with
      tokens, margin := start.glyph.column + 1, margins := scanner.margin :: scanner.margins }
  else { scanner with tokens }

/-- How many characters a key on one line may take. -/
def keyLimit : Nat := 1024

/-- Whether a colon belongs to a key that started at the given place. -/
def reachesKey (start : KeyStart) (colon : Glyph) : Bool :=
  start.glyph.line == colon.line && colon.index ≤ start.glyph.index + keyLimit

/-- Reads a colon behind a key that is not on the same line, or behind none. -/
def detachedValue (scanner : Scanner) (colon : Glyph) (rest : List Glyph) : Option Scanner :=
  if !scanner.inFlow && !scanner.keyAllowed then none
  else
    some (((scanner.roll colon.column .blockMappingStart).push .value).moveTo rest !scanner.inFlow)

/-- Reads a colon. -/
def value (scanner : Scanner) (colon : Glyph) (rest : List Glyph) : Option Scanner :=
  match scanner.keyStart with
  | none => scanner.detachedValue colon rest
  | some start =>
      if reachesKey start colon then
        some ((({ scanner with keyStart := none }.insertKey start).push .value).moveTo rest false)
      else if start.required then none
      else { scanner with keyStart := none }.detachedValue colon rest

/-- Reads the sign of a key or of an entry of a block sequence. -/
def blockSign (scanner : Scanner) (glyph : Glyph) (rest : List Glyph) (start sign : Token)
    (keyAllowed : Bool) : Option Scanner :=
  if !scanner.inFlow && !scanner.keyAllowed then none
  else
    match (scanner.roll glyph.column start).dropKey with
    | some dropped => some ((dropped.push sign).moveTo rest keyAllowed)
    | none => none

/-- Opens a flow collection. -/
def openFlow (scanner : Scanner) (glyph : Glyph) (rest : List Glyph) (token : Token) :
    Option Scanner :=
  match scanner.saveKey glyph with
  | some saved =>
      some (({ saved with keyStart := none, outer := saved.keyStart :: saved.outer }.push
        token).moveTo rest true)
  | none => none

/-- Closes a flow collection. -/
def closeFlow (scanner : Scanner) (rest : List Glyph) (token : Token) : Option Scanner :=
  match scanner.dropKey with
  | none => none
  | some dropped =>
      let closed :=
        match dropped.outer with
        | [] => dropped
        | start :: outer => { dropped with keyStart := start, outer }
      some ((closed.push token).moveTo rest false)

/-- Reads a token at which a key may start. -/
def keyed (scanner : Scanner) (glyph : Glyph) (read : Option (Token × List Glyph)) :
    Option Scanner :=
  match scanner.saveKey glyph, read with
  | some saved, some (token, rest) => some ((saved.push token).moveTo rest false)
  | _, _ => none

/-- A scalar that has been read. -/
def scalarToken (style : ScalarStyle) (read : Option (List Char × List Glyph)) :
    Option (Token × List Glyph) :=
  match read with
  | some (text, rest) => some (.scalar style (String.ofList text), rest)
  | none => none

/-- Reads a plain scalar. Behind a line break a key may start. -/
def plainScalar (scanner : Scanner) (glyph : Glyph) (rest : List Glyph) : Option Scanner :=
  match scanner.saveKey glyph, plain scanner.inFlow scanner.margin .none (glyph :: rest) with
  | some saved, some (text, broken, after) =>
      some ((saved.push (.scalar .plain (String.ofList text))).moveTo after broken)
  | _, _ => none

/-- Reads a block scalar. -/
def blockToken (scanner : Scanner) (style : ScalarStyle) (rest : List Glyph) : Option Scanner :=
  match scanner.dropKey,
      scalarToken style (blockScalar (style == .folded) scanner.margin rest) with
  | some dropped, some (token, after) => some ((dropped.push token).moveTo after true)
  | _, _ => none

/-- Reads something that stands outside every collection. -/
def outside (scanner : Scanner) (read : Option (Token × List Glyph)) : Option Scanner :=
  match (scanner.unroll 0).dropKey, read with
  | some dropped, some (token, rest) => some ((dropped.push token).moveTo rest false)
  | _, _ => none

/-- Whether a plain scalar may start with a glyph. -/
def startsPlain (scanner : Scanner) (glyph : Glyph) (rest : List Glyph) : Bool :=
  let indicator :=
    ['-', '?', ':', ',', '[', ']', '\x7b', '\x7d', '#', '&', '*', '!', '|', '>', '\'', '"', '%',
      '@', '\x60'].contains glyph.char
  (!indicator && !glyph.isBlank && !glyph.isBreak) ||
    (glyph.char == '-' && !rest.head?.any Glyph.isBlank) ||
    (!scanner.inFlow && (glyph.char == '?' || glyph.char == ':') && !atGap rest)

/-- Reads the token that starts with a glyph. -/
def token (scanner : Scanner) (glyph : Glyph) (rest : List Glyph) : Option Scanner :=
  let c := glyph.char
  let all := glyph :: rest
  if glyph.column == 0 && c == '%' then scanner.outside (directive rest)
  else if atMark '-' all then scanner.outside (some (.documentStart, all.drop 3))
  else if atMark '.' all then scanner.outside (some (.documentEnd, all.drop 3))
  else if c == '[' then scanner.openFlow glyph rest .flowSequenceStart
  else if c == '\x7b' then scanner.openFlow glyph rest .flowMappingStart
  else if c == ']' then scanner.closeFlow rest .flowSequenceEnd
  else if c == '\x7d' then scanner.closeFlow rest .flowMappingEnd
  else if c == ',' then
    match scanner.dropKey with
    | some dropped => some ((dropped.push .flowEntry).moveTo rest true)
    | none => none
  else if c == '-' && atGap rest then
    scanner.blockSign glyph rest .blockSequenceStart .blockEntry true
  else if c == '?' && (scanner.inFlow || atGap rest) then
    scanner.blockSign glyph rest .blockMappingStart .key !scanner.inFlow
  else if c == ':' && (scanner.inFlow || atGap rest) then scanner.value glyph rest
  else if c == '*' then
    scanner.keyed glyph ((anchorName rest).map fun (name, after) => (.alias name, after))
  else if c == '&' then
    scanner.keyed glyph ((anchorName rest).map fun (name, after) => (.anchor name, after))
  else if c == '!' then scanner.keyed glyph (tag scanner.inFlow rest)
  else if c == '|' && !scanner.inFlow then scanner.blockToken .literal rest
  else if c == '>' && !scanner.inFlow then scanner.blockToken .folded rest
  else if c == '\'' then scanner.keyed glyph (scalarToken .singleQuoted (singleQuoted .none rest))
  else if c == '"' then
    scanner.keyed glyph (scalarToken .doubleQuoted (doubleQuoted (.text .none) rest))
  else if scanner.startsPlain glyph rest then scanner.plainScalar glyph rest
  else none

/-- Skips blanks, comments and line breaks. A key may start on a new line of a block. -/
def skipTo (inFlow inComment keyAllowed : Bool) : List Glyph → Bool × List Glyph
  | [] => (keyAllowed, [])
  | glyph :: rest =>
      if glyph.isBreak then skipTo inFlow false (keyAllowed || !inFlow) rest
      else if inComment then skipTo inFlow true keyAllowed rest
      else if glyph.char == ' ' || (glyph.char == '\t' && (inFlow || !keyAllowed)) ||
          (glyph.char == byteOrderMark && glyph.column == 0) then
        skipTo inFlow false keyAllowed rest
      else if glyph.char == '#' then skipTo inFlow true keyAllowed rest
      else (keyAllowed, glyph :: rest)

/-- Reads the tokens of the rest of a stream, of which there are at most `limit`. -/
def run : (limit : Nat) → Scanner → Option (List Token)
  | 0, _ => none
  | limit + 1, scanner =>
      match skipTo scanner.inFlow false scanner.keyAllowed scanner.rest with
      | (_, []) =>
          match (scanner.unroll 0).dropKey with
          | some ended => some ended.tokens.reverse
          | none => none
      | (keyAllowed, glyph :: rest) =>
          match (({ scanner with keyAllowed }).unroll (glyph.column + 1)).token glyph rest with
          | some next => run limit next
          | none => none

end Scanner

/-- The tokens of a stream. -/
def tokens? (source : List Char) : Option (List Token) :=
  match glyphs? source with
  | none => none
  | some glyphs => Scanner.run (glyphs.length + 1) { rest := glyphs }

end MarkerReport.Yaml
