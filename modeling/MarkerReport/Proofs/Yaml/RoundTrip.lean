import MarkerReport.Proofs.Yaml.Lines
import MarkerReport.Yaml.Document

/-! # Documents that are read back

A printed document is a list of pairs, each a key with a sequence of texts or with a single one. It
is read as the mapping with those pairs (`MarkerReport.Yaml.Document.read?_print`): first as the
tokens of the pairs, then as their nodes, none of which carries an anchor or a tag.
-/

namespace MarkerReport.Yaml

/-- A key of a printed document with what stands under it. -/
inductive Pair where
  | sequence (key : String) (texts : List String)
  | field (key text : String)

namespace Pair

def key : Pair → String
  | .sequence key _ => key
  | .field key _ => key

/-- The lines of a pair. -/
def print : Pair → List Char
  | .sequence key texts => printSequence key texts
  | .field key text => printField key text

/-- Whether the key can stand as it is, and so can a single text. -/
def IsProper : Pair → Prop
  | .sequence key _ => Scanner.isKey key.toList
  | .field key text => Scanner.isKey key.toList ∧ PlainText text.toList ∧ text.toList ≠ []

/-- The tokens behind the key. -/
def valueTokens : Pair → List Token
  | .sequence _ [] => [.flowSequenceStart, .flowSequenceEnd]
  | .sequence _ texts => texts.flatMap Scanner.entryTokens
  | .field _ text => [.scalar .plain text]

def tokens (pair : Pair) : List Token :=
  [.key, .scalar .plain pair.key, .value] ++ pair.valueTokens

/-- The node behind the key. -/
def value : Pair → Node
  | .sequence _ texts => .sequence {} (texts.map fun text => .scalar {} (styleFor text) text)
  | .field _ text => .scalar {} .plain text

def node (pair : Pair) : Node × Node := (.scalar {} .plain pair.key, pair.value)

end Pair

/-- A key starts a line as a document can. -/
theorem startsLine_key {key : List Char} (proper : Scanner.isKey key) (rest : List Char) :
    startsLine (key ++ rest) := by
  cases key with
  | nil => simp [Scanner.isKey] at proper
  | cons c key =>
      simp only [Scanner.isKey, Bool.and_eq_true, List.head?_cons, Option.any_some] at proper
      simp [startsLine, proper]

/-- A printed pair starts a line as a document can. -/
theorem Pair.startsLine_print {pair : Pair} (proper : pair.IsProper) (rest : List Char) :
    startsLine (pair.print ++ rest) := by
  cases pair with
  | sequence key texts =>
      rw [print, printSequence, List.append_assoc]
      exact startsLine_key proper _
  | field key text =>
      rw [print, printField, List.append_assoc, List.append_assoc]
      exact startsLine_key proper.1 _

/-- So do any number of pairs. -/
theorem startsLine_pairs {pairs : List Pair} (proper : ∀ pair ∈ pairs, pair.IsProper) :
    startsLine (pairs.flatMap Pair.print) := by
  cases pairs with
  | nil => rfl
  | cons pair pairs => exact Pair.startsLine_print (proper pair (by simp)) _

namespace Scanner

/-- A pair is read, and the scanner is ready for what follows, whatever kind of value it has. -/
theorem Ready.pair {scanner : Scanner} {opened : Bool} {tokens : List Token} {pair : Pair}
    {tail : List Char} (ready : scanner.Ready opened tokens (pair.print ++ tail))
    (proper : pair.IsProper) (starts : startsLine tail) :
    ∃ next, Reads scanner next ∧
      next.Ready true ((keyTokens opened pair.key.toList ++ pair.valueTokens).reverse ++ tokens)
        tail := by
  cases pair with
  | field key text =>
      obtain ⟨named, fit, nonempty⟩ := proper
      have printed : (Pair.field key text).print ++ tail =
          key.toList ++ ':' :: ' ' :: (text.toList ++ '\n' :: tail) := by
        simp [Pair.print, printField]
      rw [printed] at ready
      obtain ⟨place, front⟩ := ready.key named rfl
      obtain ⟨next, reads, behind⟩ := reads_plain fit nonempty starts
      exact ⟨next, front.trans reads, by simpa [Pair.valueTokens, Pair.key] using behind⟩
  | sequence key texts =>
      cases texts with
      | nil =>
          have printed : (Pair.sequence key []).print ++ tail =
              key.toList ++ ':' :: ' ' :: '[' :: ']' :: '\n' :: tail := by
            simp [Pair.print, printSequence]
          rw [printed] at ready
          obtain ⟨place, front⟩ := ready.key proper rfl
          obtain ⟨next, reads, behind⟩ := reads_emptySequence starts
          exact ⟨next, front.trans reads, by simpa [Pair.valueTokens, Pair.key] using behind⟩
      | cons text texts =>
          have printed : (Pair.sequence key (text :: texts)).print ++ tail =
              key.toList ++ ':' :: '\n' :: ((text :: texts).flatMap printEntry ++ tail) := by
            simp [Pair.print, printSequence]
          rw [printed] at ready
          obtain ⟨place, front⟩ := ready.key proper rfl
          have lineEnd := @ready_within ((keyTokens opened key.toList).reverse ++ tokens) _ _ none
            _ _ (by simp) (place.column_next_of_break rfl)
            (skipTo_lineFeed (startsLine_entries (text :: texts) starts) place false)
          obtain ⟨next, reads, behind⟩ := lineEnd.entries starts
          exact ⟨next, front.trans reads, by simpa [Pair.valueTokens, Pair.key] using behind⟩

/-- The pairs of a document are read one after the other, by induction on the list. -/
theorem Ready.pairs {scanner : Scanner} {tokens : List Token} {pairs : List Pair}
    (ready : scanner.Ready true tokens (pairs.flatMap Pair.print))
    (proper : ∀ pair ∈ pairs, pair.IsProper) :
    ∃ next, Reads scanner next ∧
      next.Ready true ((pairs.flatMap Pair.tokens).reverse ++ tokens) [] := by
  induction pairs generalizing scanner tokens with
  | nil => exact ⟨scanner, .refl scanner, ready⟩
  | cons pair pairs ih =>
      obtain ⟨first, later⟩ := List.forall_mem_cons.mp proper
      rw [List.flatMap_cons] at ready
      obtain ⟨middle, front, between⟩ := ready.pair first (startsLine_pairs later)
      obtain ⟨next, reads, behind⟩ := ih between later
      exact ⟨next, front.trans reads, by simpa [Pair.tokens, keyTokens] using behind⟩

/-- At the end of a document its mapping is closed. -/
theorem Ready.run {scanner : Scanner} {tokens : List Token}
    (ready : scanner.Ready true tokens []) (limit : Nat) :
    run (limit + 1) scanner = some (tokens.reverse ++ [.blockEnd]) := by
  obtain ⟨rest, stack, margin, margins, keyStart, outer, keyAllowed⟩ := scanner
  obtain ⟨rfl, rfl, rfl, rfl, free, place, -, skips⟩ := ready
  have skipped : skipTo false false keyAllowed rest = (true, []) := skips
  cases keyStart with
  | none => simp [Scanner.run, inFlow, skipped, unroll, closeBlocks, dropKey]
  | some start =>
      simp [Scanner.run, inFlow, skipped, unroll, closeBlocks, dropKey, free start rfl]

end Scanner

/-- A pair is printed in printable characters. -/
theorem Pair.printable_print {pair : Pair} (proper : pair.IsProper) :
    ∀ c ∈ pair.print, isPrintable c := by
  have named {key : List Char} (isKey : Scanner.isKey key) : ∀ c ∈ key, isPrintable c := by
    simp only [Scanner.isKey, Bool.and_eq_true] at isKey
    exact (plainText_of_allowsPlain isKey.1.1).printable
  cases pair with
  | field key text =>
      obtain ⟨isKey, fit, -⟩ := proper
      simp only [print, printField, List.forall_mem_append, List.forall_mem_cons]
      exact ⟨⟨named isKey, by decide, by decide, fit.printable⟩, by decide,
        by simp⟩
  | sequence key texts =>
      rw [print, printSequence, List.forall_mem_append]
      refine ⟨named proper, ?_⟩
      split
      · have signs : isPrintable ':' ∧ isPrintable ' ' ∧ isPrintable '[' ∧ isPrintable ']' ∧
            isPrintable '\n' := by decide
        simp [signs]
      · simp only [List.forall_mem_cons, List.forall_mem_flatMap]
        exact ⟨by decide, by decide, fun text _ => printable_printEntry text⟩

/-- The tokens of a printed document. -/
theorem tokens?_print {pair : Pair} {pairs : List Pair} (first : pair.IsProper)
    (later : ∀ pair ∈ pairs, pair.IsProper) :
    tokens? ((pair :: pairs).flatMap Pair.print) =
      some (.blockMappingStart :: (pair :: pairs).flatMap Pair.tokens ++ [.blockEnd]) := by
  have proper : ∀ other ∈ pair :: pairs, other.IsProper := List.forall_mem_cons.mpr ⟨first, later⟩
  have printable : ∀ c ∈ (pair :: pairs).flatMap Pair.print, isPrintable c := by
    intro c member
    obtain ⟨printed, listed, among⟩ := List.mem_flatMap.mp member
    exact Pair.printable_print (proper printed listed) c among
  have ready : ({ rest := (⟨0, 0, 0⟩ : Place).glyphs ((pair :: pairs).flatMap Pair.print) } :
      Scanner).Ready false [] (pair.print ++ pairs.flatMap Pair.print) :=
    ⟨rfl, rfl, rfl, rfl, by simp, ⟨0, 0, 0⟩, rfl,
      Scanner.skipTo_startsLine (startsLine_pairs proper) _ _⟩
  obtain ⟨middle, front, between⟩ := ready.pair first (startsLine_pairs later)
  obtain ⟨last, reads, behind⟩ := between.pairs later
  rw [tokens?, glyphs?_of_printable printable]
  have run := Scanner.run_of_reads (front.trans reads) behind.run
  simpa [Pair.tokens, Scanner.keyTokens] using run

section Nodes

variable {handles : Handles} {depth : Nat} {inBlock indentless : Bool} {rest : List Token}

/-- A scalar among the tokens is a node by itself. -/
theorem node_scalar (style : ScalarStyle) (text : String) :
    node handles (depth + 1) inBlock indentless (.scalar style text :: rest) =
      some (.scalar {} style text, rest) := by
  simp [node, properties]

/-- What comes behind a pair: another one, or the end of the mapping. -/
def EndsPair (rest : List Token) : Prop :=
  ∃ later, rest = .key :: later ∨ rest = .blockEnd :: later

/-- The entries of a sequence, up to something that is no entry. -/
theorem indentlessEntries_tokens (texts : List String) (deep : texts.length < depth)
    (ends : EndsPair rest) :
    indentlessEntries handles depth (texts.flatMap Scanner.entryTokens ++ rest) =
      some (texts.map fun text => .scalar {} (styleFor text) text, rest) := by
  induction texts generalizing depth with
  | nil =>
      obtain ⟨depth, rfl⟩ := Nat.exists_eq_add_one.mpr (Nat.zero_lt_of_lt deep)
      obtain ⟨later, rfl | rfl⟩ := ends
      · simp [indentlessEntries]
      · simp [indentlessEntries]
  | cons text texts ih =>
      obtain ⟨depth, rfl⟩ := Nat.exists_eq_add_one.mpr (Nat.zero_lt_of_lt deep)
      rw [List.length_cons] at deep
      obtain ⟨depth, rfl⟩ := Nat.exists_eq_add_one.mpr
        (Nat.zero_lt_of_lt (Nat.lt_of_succ_lt_succ deep))
      have later := ih (Nat.lt_of_succ_lt_succ deep)
      simp [Scanner.entryTokens, indentlessEntries, atToken, node_scalar, later]

/-- Each entry of a sequence makes two tokens. -/
theorem length_flatMap_entryTokens (texts : List String) :
    (texts.flatMap Scanner.entryTokens).length = 2 * texts.length := by
  induction texts with
  | nil => rfl
  | cons text texts ih =>
      rw [List.flatMap_cons, List.length_append, ih, List.length_cons]
      simp only [Scanner.entryTokens, List.length_cons, List.length_nil]
      omega

/-- The value of a pair. -/
theorem blockPart_valueTokens (pair : Pair) (deep : pair.valueTokens.length + 2 ≤ depth)
    (ends : EndsPair rest) :
    blockPart handles depth (pair.valueTokens ++ rest) = some (pair.value, rest) := by
  cases pair with
  | field key text =>
      obtain ⟨depth, rfl⟩ := Nat.exists_eq_add_of_le' deep
      simp [Pair.valueTokens, Pair.value, blockPart, atToken, node_scalar]
  | sequence key texts =>
      cases texts with
      | nil =>
          obtain ⟨depth, rfl⟩ := Nat.exists_eq_add_of_le' deep
          simp [Pair.valueTokens, Pair.value, blockPart, atToken, node, properties, flowItems]
      | cons text texts =>
          have printed : (Pair.sequence key (text :: texts)).valueTokens =
              (text :: texts).flatMap Scanner.entryTokens := rfl
          rw [printed, length_flatMap_entryTokens] at deep
          obtain ⟨depth, rfl⟩ := Nat.exists_eq_add_of_le' (Nat.le_of_add_left_le deep)
          have entries := @indentlessEntries_tokens handles depth rest (text :: texts)
            (by simp only [List.length_cons] at deep ⊢; omega) ends
          rw [printed]
          simp only [List.flatMap_cons, Scanner.entryTokens, List.cons_append, List.nil_append]
            at entries ⊢
          simp [blockPart, atToken, node, properties, entries, Pair.value]

/-- The pairs of a mapping. -/
theorem blockPairs_tokens (pairs : List Pair)
    (deep : (pairs.flatMap Pair.tokens).length + 2 ≤ depth) :
    blockPairs handles depth (pairs.flatMap Pair.tokens ++ .blockEnd :: rest) =
      some (pairs.map Pair.node, rest) := by
  induction pairs generalizing depth with
  | nil =>
      obtain ⟨depth, rfl⟩ := Nat.exists_eq_add_of_le' deep
      simp [blockPairs]
  | cons pair pairs ih =>
      rw [List.flatMap_cons, List.length_append] at deep
      have length : pair.tokens.length = pair.valueTokens.length + 3 := by
        simp [Pair.tokens]
      obtain ⟨depth, rfl⟩ := Nat.exists_eq_add_of_le' (show 3 ≤ depth by omega)
      have ends : EndsPair (pairs.flatMap Pair.tokens ++ .blockEnd :: rest) := by
        cases pairs with
        | nil => exact ⟨rest, .inr rfl⟩
        | cons other pairs => exact ⟨_, .inl rfl⟩
      have value := @blockPart_valueTokens handles (depth + 2) _ pair (by omega) ends
      have later := @ih (depth + 2) (by omega)
      have key : blockPart handles (depth + 2) (.scalar .plain pair.key :: .value ::
          (pair.valueTokens ++ (pairs.flatMap Pair.tokens ++ .blockEnd :: rest))) =
            some (.scalar {} .plain pair.key, .value ::
              (pair.valueTokens ++ (pairs.flatMap Pair.tokens ++ .blockEnd :: rest))) := by
        simp [blockPart, atToken, node_scalar]
      simp [Pair.tokens, blockPairs, key, value, later, Pair.node]

end Nodes

/-- The tokens of the pairs are parsed to the mapping of their nodes. -/
theorem document?_tokens (pairs : List Pair) :
    document? (.blockMappingStart :: pairs.flatMap Pair.tokens ++ [.blockEnd]) =
      some (.mapping {} (pairs.map Pair.node)) := by
  have deep : (pairs.flatMap Pair.tokens).length + 2 ≤
      4 * ((pairs.flatMap Pair.tokens).length + 1 + 1) + 3 := by omega
  have read := @blockPairs_tokens defaultHandles _ [] pairs deep
  generalize pairs.flatMap Pair.tokens = tokens at read
  simp [document?, content, endsDocument, node, properties, read]

/-- Scalars without anchors are numbered to themselves. -/
theorem numberedItems_scalars (texts : List String) (numbers : AnchorNumbers) :
    numberedItems (texts.map fun text => .scalar {} (styleFor text) text) numbers =
      some (texts.map fun text => .scalar {} (styleFor text) text, numbers) := by
  induction texts with
  | nil => rfl
  | cons text texts ih => simp [numberedItems, Node.numbered, Properties.numbered, ih]

/-- The nodes of pairs have no anchors to number. -/
theorem numberedPairs_nodes (pairs : List Pair) (numbers : AnchorNumbers) :
    numberedPairs (pairs.map Pair.node) numbers = some (pairs.map Pair.node, numbers) := by
  induction pairs with
  | nil => rfl
  | cons pair pairs ih =>
      have value : pair.value.numbered numbers = some (pair.value, numbers) := by
        cases pair with
        | field key text => rfl
        | sequence key texts =>
            simp [Pair.value, Node.numbered, Properties.numbered, numberedItems_scalars]
      simp [Pair.node, numberedPairs, Node.numbered, Properties.numbered, value, ih]

theorem anchoredItems_scalars (texts : List String) :
    anchoredItems (texts.map fun text => .scalar {} (styleFor text) text) = [] := by
  induction texts with
  | nil => rfl
  | cons text texts ih => simp [anchoredItems, Node.anchored, underAnchor, ih]

theorem anchoredPairs_nodes (pairs : List Pair) : anchoredPairs (pairs.map Pair.node) = [] := by
  induction pairs with
  | nil => rfl
  | cons pair pairs ih =>
      have value : pair.value.anchored = [] := by
        cases pair with
        | field key text => rfl
        | sequence key texts => simp [Pair.value, Node.anchored, underAnchor, anchoredItems_scalars]
      simp [Pair.node, anchoredPairs, Node.anchored, underAnchor, value, ih]

/-- The mapping of pairs is a document without anchors. -/
theorem Document.ofRoot?_nodes (pairs : List Pair) :
    ofRoot? (.mapping {} (pairs.map Pair.node)) =
      some ⟨.mapping {} (pairs.map Pair.node), []⟩ := by
  simp [ofRoot?, Node.numbered, Properties.numbered, numberedPairs_nodes, Node.anchored,
    underAnchor, anchoredPairs_nodes]

/-- The root of a printed document: nothing at all for an empty one. -/
def Pair.root (pairs : List Pair) : Node :=
  if pairs = [] then .empty else .mapping {} (pairs.map Pair.node)

/-- A printed document is read as the pairs that it was printed from. -/
theorem Document.read?_print {pairs : List Pair} (proper : ∀ pair ∈ pairs, pair.IsProper) :
    Document.read? (pairs.flatMap Pair.print) = some ⟨Pair.root pairs, []⟩ := by
  cases pairs with
  | nil => rfl
  | cons pair pairs =>
      obtain ⟨first, later⟩ := List.forall_mem_cons.mp proper
      rw [Document.read?, tokens?_print first later]
      simp only [bind, Option.bind, document?_tokens, ofRoot?_nodes]
      rfl

end MarkerReport.Yaml
