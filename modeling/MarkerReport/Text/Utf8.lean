/-! # UTF-8

Text is stored as bytes in UTF-8. Reading accepts exactly the well-formed byte sequences: no
overlong forms, no surrogates, nothing above the last code point, no stray and no missing
continuation bytes. A sequence that is not well-formed is rejected with the length of its longest
well-formed start.
-/

namespace MarkerReport.Utf8

/-- Where and how a byte sequence stops being well-formed. -/
structure Fault where
  /-- How many bytes before the fault are well-formed. -/
  offset : Nat
  /-- How many bytes are at fault, unless the sequence ends within a character. -/
  width : Option Nat
deriving Repr, DecidableEq, Inhabited

/-- The words for a fault. -/
def Fault.reason (fault : Fault) : String :=
  match fault.width with
  | some width =>
      "invalid utf-8 sequence of " ++ toString width ++ " bytes from index " ++
        toString fault.offset
  | none => "incomplete utf-8 byte sequence from index " ++ toString fault.offset

/-- The bytes of a text. -/
def encode (text : List Char) : List UInt8 := text.flatMap String.utf8EncodeChar

/-- Whether a byte continues a character. -/
def isTail (byte : UInt8) : Bool := 0x80 ≤ byte && byte ≤ 0xBF

/-- Whether the second byte of a character of three bytes fits the first: no overlong forms and no
surrogates. -/
def fitsThree (first second : UInt8) : Bool :=
  isTail second && (first != 0xE0 || 0xA0 ≤ second) && (first != 0xED || second ≤ 0x9F)

/-- Whether the second byte of a character of four bytes fits the first: no overlong forms and
nothing above the last code point. -/
def fitsFour (first second : UInt8) : Bool :=
  isTail second && (first != 0xF0 || 0x90 ≤ second) && (first != 0xF4 || second ≤ 0x8F)

/-- The character whose bytes carry the given bits, from the first byte on. -/
def assemble (lead : Nat) (tails : List UInt8) : Char :=
  Char.ofNat (tails.foldl (fun code byte => code * 64 + (byte.toNat - 0x80)) lead)

/-- The first character of a nonempty byte sequence and what follows it, or how many bytes are at
fault. -/
def firstChar (first : UInt8) (rest : List UInt8) : Except (Option Nat) (Char × List UInt8) :=
  if first ≤ 0x7F then .ok (Char.ofNat first.toNat, rest)
  else if 0xC2 ≤ first && first ≤ 0xDF then
    match rest with
    | [] => .error none
    | second :: rest =>
        if !isTail second then .error (some 1)
        else .ok (assemble (first.toNat - 0xC0) [second], rest)
  else if 0xE0 ≤ first && first ≤ 0xEF then
    match rest with
    | [] => .error none
    | second :: rest =>
        if !fitsThree first second then .error (some 1)
        else
          match rest with
          | [] => .error none
          | third :: rest =>
              if !isTail third then .error (some 2)
              else .ok (assemble (first.toNat - 0xE0) [second, third], rest)
  else if 0xF0 ≤ first && first ≤ 0xF4 then
    match rest with
    | [] => .error none
    | second :: rest =>
        if !fitsFour first second then .error (some 1)
        else
          match rest with
          | [] => .error none
          | third :: rest =>
              if !isTail third then .error (some 2)
              else
                match rest with
                | [] => .error none
                | fourth :: rest =>
                    if !isTail fourth then .error (some 3)
                    else .ok (assemble (first.toNat - 0xF0) [second, third, fourth], rest)
  else .error (some 1)

theorem length_firstChar {first : UInt8} {rest later : List UInt8} {c : Char}
    (read : firstChar first rest = .ok (c, later)) : later.length ≤ rest.length := by
  unfold firstChar at read
  repeat' split at read
  all_goals simp_all <;> omega

/-- Reads a byte sequence that starts at an offset. -/
def decodeFrom (offset : Nat) (bytes : List UInt8) : Except Fault (List Char) :=
  match bytes with
  | [] => .ok []
  | first :: rest =>
      match read : firstChar first rest with
      | .error width => .error ⟨offset, width⟩
      | .ok (c, later) =>
          have : later.length ≤ rest.length := length_firstChar read
          match decodeFrom (offset + c.utf8Size) later with
          | .ok text => .ok (c :: text)
          | .error fault => .error fault
termination_by bytes.length

/-- Reads a byte sequence. -/
def decode (bytes : List UInt8) : Except Fault (List Char) := decodeFrom 0 bytes

end MarkerReport.Utf8
