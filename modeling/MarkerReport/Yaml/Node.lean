import MarkerReport.Yaml.Token

/-! # Documents out of the tokens of a YAML stream

A document is a tree of scalars, sequences and mappings, each of which may carry an anchor and a
tag. A node that is left out is an empty plain scalar.
-/

namespace MarkerReport.Yaml

/-- The anchor and the tag of a node. -/
structure Properties where
  anchor : Option String := none
  tag : Option String := none
deriving Repr, DecidableEq, Inhabited

/-- A node of a document. -/
inductive Node where
  | alias (name : String)
  | scalar (properties : Properties) (style : ScalarStyle) (text : String)
  | sequence (properties : Properties) (items : List Node)
  | mapping (properties : Properties) (pairs : List (Node × Node))
deriving Repr, Inhabited

namespace Node

/-- A node that is left out. -/
def empty : Node := .scalar {} .plain ""

end Node

/-- What tag handles stand for. -/
abbrev Handles := List (String × String)

/-- What the tag handles stand for of which a document says nothing. -/
def defaultHandles : Handles := [("!", "!"), ("!!", "tag:yaml.org,2002:")]

/-- The full tag with a handle and a suffix, if the handle is known. -/
def expandTag (handles : Handles) (handle suffix : String) : Option String :=
  if handle = "" then some suffix
  else (handles.lookup handle).map (· ++ suffix)

/-- Reads the anchor and the tag in front of a node, in either order. -/
def properties (handles : Handles) : List Token → Option (Properties × List Token)
  | .anchor name :: .tag handle suffix :: rest =>
      (expandTag handles handle suffix).map fun full => (⟨some name, some full⟩, rest)
  | .anchor name :: rest => some (⟨some name, none⟩, rest)
  | .tag handle suffix :: .anchor name :: rest =>
      (expandTag handles handle suffix).map fun full => (⟨some name, some full⟩, rest)
  | .tag handle suffix :: rest =>
      (expandTag handles handle suffix).map fun full => (⟨none, some full⟩, rest)
  | rest => some ({}, rest)

/-- Whether one of the given tokens comes next. -/
def atToken (expected : List Token) : List Token → Bool
  | [] => false
  | token :: _ => expected.contains token

/-- An anchor or a tag with nothing behind it belongs to an empty scalar. -/
def bare (found : Properties) (rest : List Token) : Option (Node × List Token) :=
  if found = {} then none else some (.scalar found .plain "", rest)

/-- Skips a comma. -/
def afterComma : List Token → Option (List Token)
  | .flowEntry :: rest => some rest
  | _ => none

mutual

/-- Reads a node. `inBlock` tells whether block collections are expected, and `indentless` whether
entries of a sequence may stand where the keys of the mapping around them do. -/
def node (handles : Handles) : (depth : Nat) → (inBlock indentless : Bool) → List Token →
    Option (Node × List Token)
  | 0, _, _, _ => none
  | _, _, _, .alias name :: rest => some (.alias name, rest)
  | depth + 1, inBlock, indentless, tokens => do
      let (found, rest) ← properties handles tokens
      match rest with
      | .blockEntry :: _ =>
          if indentless then
            let (items, after) ← indentlessEntries handles depth rest
            some (.sequence found items, after)
          else bare found rest
      | .scalar style text :: after => some (.scalar found style text, after)
      | .flowSequenceStart :: inner =>
          let (items, after) ← flowItems handles depth true inner
          some (.sequence found items, after)
      | .flowMappingStart :: inner =>
          let (pairs, after) ← flowPairs handles depth true inner
          some (.mapping found pairs, after)
      | .blockSequenceStart :: inner =>
          if inBlock then
            let (items, after) ← blockEntries handles depth inner
            some (.sequence found items, after)
          else bare found rest
      | .blockMappingStart :: inner =>
          if inBlock then
            let (pairs, after) ← blockPairs handles depth inner
            some (.mapping found pairs, after)
          else bare found rest
      | _ => bare found rest

/-- Reads the entries of a block sequence up to its end. -/
def blockEntries (handles : Handles) : (depth : Nat) → List Token →
    Option (List Node × List Token)
  | 0, _ => none
  | _, .blockEnd :: rest => some ([], rest)
  | depth + 1, .blockEntry :: rest => do
      let (item, rest) ←
        if atToken [.blockEntry, .blockEnd] rest then some (.empty, rest)
        else node handles depth true false rest
      let (later, rest) ← blockEntries handles depth rest
      some (item :: later, rest)
  | _, _ => none

/-- Reads the entries of a sequence that stand where keys do. -/
def indentlessEntries (handles : Handles) : (depth : Nat) → List Token →
    Option (List Node × List Token)
  | 0, _ => none
  | depth + 1, .blockEntry :: rest => do
      let (item, rest) ←
        if atToken [.blockEntry, .key, .value, .blockEnd] rest then some (.empty, rest)
        else node handles depth true false rest
      let (later, rest) ← indentlessEntries handles depth rest
      some (item :: later, rest)
  | _, rest => some ([], rest)

/-- Reads the pairs of a block mapping up to its end. -/
def blockPairs (handles : Handles) : (depth : Nat) → List Token →
    Option (List (Node × Node) × List Token)
  | 0, _ => none
  | _, .blockEnd :: rest => some ([], rest)
  | depth + 1, .key :: rest => do
      let (key, rest) ← blockPart handles depth rest
      let (value, rest) ←
        match rest with
        | .value :: rest => blockPart handles depth rest
        | _ => some (.empty, rest)
      let (later, rest) ← blockPairs handles depth rest
      some ((key, value) :: later, rest)
  | _, _ => none

/-- Reads a key or a value of a block mapping. -/
def blockPart (handles : Handles) : (depth : Nat) → List Token → Option (Node × List Token)
  | 0, _ => none
  | depth + 1, rest =>
      if atToken [.key, .value, .blockEnd] rest then some (.empty, rest)
      else node handles depth true true rest

/-- Reads the items of a flow sequence up to its end. -/
def flowItems (handles : Handles) : (depth : Nat) → (first : Bool) → List Token →
    Option (List Node × List Token)
  | 0, _, _ => none
  | _, _, .flowSequenceEnd :: rest => some ([], rest)
  | depth + 1, first, tokens => do
      let rest ← if first then some tokens else afterComma tokens
      if atToken [.flowSequenceEnd] rest then some ([], rest.drop 1)
      else
        let (item, rest) ←
          match rest with
          | .key :: rest => singlePair handles depth rest
          | _ => node handles depth false false rest
        let (later, rest) ← flowItems handles depth false rest
        some (item :: later, rest)

/-- Reads a mapping of one pair in a flow sequence, after its sign. If the key is left out, the
token that shows it is skipped. -/
def singlePair (handles : Handles) : (depth : Nat) → List Token → Option (Node × List Token)
  | 0, _ => none
  | depth + 1, tokens => do
      let (key, rest) ←
        if atToken [.value, .flowEntry, .flowSequenceEnd] tokens then some (.empty, tokens.drop 1)
        else node handles depth false false tokens
      let (value, rest) ← flowValue handles depth .flowSequenceEnd rest
      some (.mapping {} [(key, value)], rest)

/-- Reads the value of a pair in a flow collection with the given end. -/
def flowValue (handles : Handles) : (depth : Nat) → (close : Token) → List Token →
    Option (Node × List Token)
  | 0, _, _ => none
  | depth + 1, close, .value :: rest =>
      if atToken [.flowEntry, close] rest then some (.empty, rest)
      else node handles depth false false rest
  | _, _, rest => some (.empty, rest)

/-- Reads the pairs of a flow mapping up to its end. -/
def flowPairs (handles : Handles) : (depth : Nat) → (first : Bool) → List Token →
    Option (List (Node × Node) × List Token)
  | 0, _, _ => none
  | _, _, .flowMappingEnd :: rest => some ([], rest)
  | depth + 1, first, tokens => do
      let rest ← if first then some tokens else afterComma tokens
      if atToken [.flowMappingEnd] rest then some ([], rest.drop 1)
      else
        let (pair, rest) ←
          match rest with
          | .key :: rest => flowPair handles depth rest
          | _ => (node handles depth false false rest).map fun (key, rest) => ((key, .empty), rest)
        let (later, rest) ← flowPairs handles depth false rest
        some (pair :: later, rest)

/-- Reads a pair of a flow mapping, after its sign. -/
def flowPair (handles : Handles) : (depth : Nat) → List Token →
    Option ((Node × Node) × List Token)
  | 0, _ => none
  | depth + 1, tokens => do
      let (key, rest) ←
        if atToken [.value, .flowEntry, .flowMappingEnd] tokens then some (.empty, tokens)
        else node handles depth false false tokens
      let (value, rest) ← flowValue handles depth .flowMappingEnd rest
      some ((key, value), rest)

end

/-- Reads the directives of a document: the version at most once, and no handle twice. -/
def directives : (versioned : Bool) → Handles → List Token → Option (Handles × List Token)
  | versioned, handles, .version major minor :: rest =>
      if !versioned && major == 1 && (minor == 1 || minor == 2) then directives true handles rest
      else none
  | versioned, handles, .tagHandle handle expansion :: rest =>
      if (handles.lookup handle).isSome then none
      else directives versioned (handles ++ [(handle, expansion)]) rest
  | _, handles, rest => some (handles, rest)

/-- Whether what comes next is not part of the content of a document. -/
def endsDocument : List Token → Bool
  | [] => true
  | .version .. :: _ | .tagHandle .. :: _ | .documentStart :: _ | .documentEnd :: _ => true
  | _ => false

/-- Reads the content of the first document. -/
def content (tokens : List Token) : Option (Node × List Token) :=
  let depth := 4 * tokens.length + 4
  if endsDocument tokens && !atToken [.documentEnd] tokens then
    match directives false [] tokens with
    | some (handles, .documentStart :: rest) =>
        if endsDocument rest then some (.empty, rest)
        else node (handles ++ defaultHandles) depth true false rest
    | _ => none
  else node defaultHandles depth true false tokens

/-- The only document of a stream, if the stream has one and no other. An empty stream has an empty
document. -/
def document? (tokens : List Token) : Option Node :=
  if tokens.isEmpty then some .empty
  else
    match content tokens with
    | some (root, rest) => if rest.all (· == .documentEnd) then some root else none
    | none => none

end MarkerReport.Yaml
