import MarkerReport.Glob.Basic

/-! # Matching a path against a glob pattern

A piece of a pattern takes some bytes at the start of a path and leaves the rest. A pattern matches
a path when its pieces, one after the other, can leave nothing.
-/

namespace MarkerReport.Glob

/-- The bytes of a character. -/
def charBytes (c : Char) : List UInt8 := (String.singleton c).toUTF8.toList

/-- The bytes of a text. -/
def textBytes (text : String) : List UInt8 := text.toUTF8.toList

/-- What follows the given bytes in a path. -/
def afterBytes? : (expected path : List UInt8) → Option (List UInt8)
  | [], path => some path
  | _ :: _, [] => none
  | byte :: expected, first :: path => if byte = first then afterBytes? expected path else none

/-- The byte between components. -/
def separator : UInt8 := 47

/-- A path and everything that is left of it when bytes are taken from its start. -/
def allRests : List UInt8 → List (List UInt8)
  | [] => [[]]
  | byte :: path => (byte :: path) :: allRests path

/-- What follows each separator of a path. -/
def restsBelow : List UInt8 → List (List UInt8)
  | [] => []
  | byte :: path => if byte = separator then path :: restsBelow path else restsBelow path

/-- The ranges of bytes that a range of characters stands for: the bytes of its ends, and all
between the last byte of the first end and the first byte of the other. -/
def byteRanges (range : Char × Char) : List (UInt8 × UInt8) :=
  if range.1 = range.2 then (charBytes range.1).map fun byte => (byte, byte)
  else
    let first := charBytes range.1
    let last := charBytes range.2
    first.dropLast.map (fun byte => (byte, byte)) ++
      [(first.getLastD 0, last.headD 0)] ++ last.tail.map fun byte => (byte, byte)

/-- Whether a byte is in one of the ranges. -/
def inRanges (ranges : List (Char × Char)) (byte : UInt8) : Bool :=
  ranges.any fun range => (byteRanges range).any fun (first, last) => first ≤ byte && byte ≤ last

mutual

/-- Whether a piece describes nothing at all: a group all of whose branches are empty. -/
def Piece.isVoid : Piece → Bool
  | .alternatives branches => allVoid branches
  | _ => false

/-- Whether all pieces of a branch are void. -/
def branchVoid : List Piece → Bool
  | [] => true
  | piece :: later => piece.isVoid && branchVoid later

/-- Whether all branches of a group are void. -/
def allVoid : List (List Piece) → Bool
  | [] => true
  | branch :: later => branchVoid branch && allVoid later

end

mutual

/-- What a piece can leave of a path. -/
def Piece.rests : Piece → List UInt8 → List (List UInt8)
  | .literal c, path => (afterBytes? (charBytes c) path).toList
  | .anyByte, path => match path with
      | [] => []
      | _ :: rest => [rest]
  | .anyBytes, path => allRests path
  | .leading, path => path :: restsBelow path
  | .trailing, path => match path with
      | [] => []
      | byte :: rest => if byte = separator then allRests rest else []
  | .between, path => match path with
      | [] => []
      | byte :: rest => if byte = separator then rest :: restsBelow rest else []
  | .oneOf negated ranges, path => match path with
      | [] => []
      | byte :: rest => if inRanges ranges byte != negated then [rest] else []
  | .alternatives branches, path =>
      if allVoid branches then [path] else groupRests branches path

/-- What a sequence of pieces can leave of any one of the paths. -/
def branchRests : List Piece → List (List UInt8) → List (List UInt8)
  | [], paths => paths
  | piece :: later, paths =>
      branchRests later (paths.flatMap fun path => piece.rests path).eraseDups

/-- What the branches of a group can leave of a path. A void branch counts for nothing. -/
def groupRests : List (List Piece) → List UInt8 → List (List UInt8)
  | [], _ => []
  | branch :: later, path =>
      (if branchVoid branch then [] else branchRests branch [path]) ++ groupRests later path

end

/-- Whether a piece is a literal character. -/
def Piece.isLiteral : Piece → Bool
  | .literal _ => true
  | _ => false

/-- Whether a piece is the given character. -/
def Piece.isChar (c : Char) : Piece → Bool
  | .literal d => c == d
  | _ => false

/-- Whether the pieces after an arbitrary start are more than an extension. -/
def endsText (pieces : List Piece) : Bool :=
  pieces.all Piece.isLiteral &&
    !(match pieces with
      | dot :: later =>
          dot.isChar '.' && later.all fun piece => !piece.isChar '.' && !piece.isChar '/'
      | [] => false)

/-- Whether a pattern compares whole paths or their ends, rather than the name or the extension of
the last component. -/
def comparesText : List Piece → Bool
  | .leading :: .anyBytes :: later => endsText later
  | .leading :: later => later.all Piece.isLiteral && later.any (Piece.isChar '/')
  | .anyBytes :: later => endsText later
  | pieces => pieces.all Piece.isLiteral

/-- Whether a pattern looks at the name or the extension of the last component. A path that ends in
a dot has neither. -/
def needsName (pieces : List Piece) : Bool :=
  (pieces.getLast?.any (Piece.isChar '.')) && !comparesText pieces

end MarkerReport.Glob

namespace MarkerReport.Glob

/-- Whether the pattern matches a path. -/
def covers (glob : Glob) (path : String) : Bool :=
  !(needsName glob.pieces && path.endsWith ".") &&
    match glob.pieces with
    | [.leading] => true
    | pieces => (branchRests pieces [textBytes path]).any List.isEmpty

end MarkerReport.Glob
