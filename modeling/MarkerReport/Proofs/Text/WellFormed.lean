import Mathlib.Order.Bounds.Defs
import MarkerReport.Proofs.Text.Folding
import MarkerReport.Proofs.Text.Utf8

/-! # Well-formed bytes

A character is written as a first byte, which tells how many bytes there are, and bytes that
continue it; together they carry a code (`MarkerReport.Utf8.Carries`). Not every code that can be
carried may be: there are no overlong forms, no surrogates and nothing above the last code point
(`MarkerReport.Utf8.IsCharacter`).

Reading goes by ranges of bytes and never looks at the code for this, but accepts just the same
(`MarkerReport.Utf8.firstChar_of_isCharacter`, `MarkerReport.Utf8.exists_isCharacter_of_firstChar`).
So what is read is well-formed and is written with the bytes that were read
(`MarkerReport.Utf8.decode_eq_ok_iff`, `MarkerReport.Utf8.wellFormed_iff_exists_encode`), and where
reading stops, no longer start of the bytes is well-formed
(`MarkerReport.Utf8.isGreatest_of_decode_eq_error`).
-/

namespace MarkerReport.Utf8

/-- A byte that continues a character, with six bits of its code. -/
def Continues (byte : UInt8) : Prop := 0x80 ≤ byte.toNat ∧ byte.toNat ≤ 0xBF

/-- The code that a first byte and as many continuing bytes as it asks for carry, whether or not the
code may be written so. -/
inductive Carries : List UInt8 → Nat → Prop
  | one {first : UInt8} (most : first.toNat ≤ 0x7F) : Carries [first] first.toNat
  | two {first second : UInt8} (least : 0xC0 ≤ first.toNat) (most : first.toNat ≤ 0xDF)
      (continues : Continues second) :
      Carries [first, second] ((first.toNat - 0xC0) * 64 + (second.toNat - 0x80))
  | three {first second third : UInt8} (least : 0xE0 ≤ first.toNat) (most : first.toNat ≤ 0xEF)
      (inner : Continues second) (continues : Continues third) :
      Carries [first, second, third]
        (((first.toNat - 0xE0) * 64 + (second.toNat - 0x80)) * 64 + (third.toNat - 0x80))
  | four {first second third fourth : UInt8} (least : 0xF0 ≤ first.toNat)
      (most : first.toNat ≤ 0xF7) (inner : Continues second) (further : Continues third)
      (continues : Continues fourth) :
      Carries [first, second, third, fourth]
        ((((first.toNat - 0xF0) * 64 + (second.toNat - 0x80)) * 64 + (third.toNat - 0x80)) * 64 +
          (fourth.toNat - 0x80))

/-- The least code that needs so many bytes. -/
def leastCode : Nat → Nat
  | 0 | 1 => 0
  | 2 => 0x80
  | 3 => 0x800
  | _ => 0x10000

/-- The bytes of one character: they carry its code, and no fewer bytes could. -/
structure IsCharacter (bytes : List UInt8) (code : Nat) : Prop where
  carries : Carries bytes code
  shortest : leastCode bytes.length ≤ code
  noSurrogate : code < 0xD800 ∨ 0xDFFF < code
  bounded : code ≤ 0x10FFFF

/-- Bytes of characters, one after the other. -/
inductive WellFormed : List UInt8 → Prop
  | nil : WellFormed []
  | cons {bytes later : List UInt8} {code : Nat} (character : IsCharacter bytes code)
      (rest : WellFormed later) : WellFormed (bytes ++ later)

/-- The code of a well-formed sequence is that of a character. -/
theorem IsCharacter.toNat_ofNat {bytes : List UInt8} {code : Nat}
    (character : IsCharacter bytes code) : (Char.ofNat code).toNat = code := by
  have noSurrogate := character.noSurrogate
  have bounded := character.bounded
  apply Text.toNat_ofNat
  omega

/-- The bytes of a character are read as the character, whatever follows them. -/
theorem firstChar_of_isCharacter {bytes later rest : List UInt8} {code : Nat} {first : UInt8}
    (character : IsCharacter bytes code) (split : first :: rest = bytes ++ later) :
    firstChar first rest = .ok (Char.ofNat code, later) := by
  obtain ⟨carries, shortest, noSurrogate, bounded⟩ := character
  cases carries with
  | one most =>
      obtain ⟨rfl, rfl⟩ := List.cons.inj split
      exact firstChar_one (Nat.lt_succ_of_le most)
  | @two _ second least most continues =>
      obtain ⟨rfl, rfl⟩ := List.cons.inj split
      have ⟨low, high⟩ := continues
      change 0x80 ≤ _ at shortest
      exact firstChar_two (by omega) most (isTail_iff.mpr continues)
  | @three _ second third least most inner continues =>
      obtain ⟨rfl, rfl⟩ := List.cons.inj split
      have fits : fitsThree first second := by
        have ⟨secondLow, secondHigh⟩ := inner
        have ⟨thirdLow, thirdHigh⟩ := continues
        change 0x800 ≤ _ at shortest
        refine fitsThree_iff.mpr ⟨isTail_iff.mpr inner, ?_⟩
        omega
      exact firstChar_three least most fits (isTail_iff.mpr continues)
  | @four _ second third fourth least most inner further continues =>
      obtain ⟨rfl, rfl⟩ := List.cons.inj split
      have ⟨secondLow, secondHigh⟩ := inner
      have ⟨thirdLow, thirdHigh⟩ := further
      have ⟨fourthLow, fourthHigh⟩ := continues
      have fits : fitsFour first second := by
        change 0x10000 ≤ _ at shortest
        refine fitsFour_iff.mpr ⟨isTail_iff.mpr inner, ?_⟩
        omega
      exact firstChar_four least (by omega) fits (isTail_iff.mpr further) (isTail_iff.mpr continues)

section

variable {first second third fourth : UInt8}

/-- One byte of ASCII is well formed. -/
theorem isCharacter_one (most : first.toNat ≤ 0x7F) : IsCharacter [first] first.toNat :=
  ⟨.one most, Nat.zero_le _, by omega, by omega⟩

/-- What the decoder takes for two bytes of a character is well formed. -/
theorem isCharacter_two (least : 0xC2 ≤ first.toNat) (most : first.toNat ≤ 0xDF)
    (tail : isTail second) :
    IsCharacter [first, second] ((first.toNat - 0xC0) * 64 + (second.toNat - 0x80)) := by
  have ⟨low, high⟩ := isTail_iff.mp tail
  refine ⟨.two (by omega) most ⟨low, high⟩, ?_, by omega, by omega⟩
  change 0x80 ≤ _
  omega

/-- What the decoder takes for three bytes of a character is well formed. -/
theorem isCharacter_three (least : 0xE0 ≤ first.toNat) (most : first.toNat ≤ 0xEF)
    (fits : fitsThree first second) (tail : isTail third) :
    IsCharacter [first, second, third]
      (((first.toNat - 0xE0) * 64 + (second.toNat - 0x80)) * 64 + (third.toNat - 0x80)) := by
  have ⟨inner, overlong, surrogate⟩ := fitsThree_iff.mp fits
  have ⟨secondLow, secondHigh⟩ := isTail_iff.mp inner
  have ⟨thirdLow, thirdHigh⟩ := isTail_iff.mp tail
  refine ⟨.three least most ⟨secondLow, secondHigh⟩ ⟨thirdLow, thirdHigh⟩, ?_, by omega, by omega⟩
  change 0x800 ≤ _
  omega

/-- What the decoder takes for four bytes of a character is well formed. -/
theorem isCharacter_four (least : 0xF0 ≤ first.toNat) (most : first.toNat ≤ 0xF4)
    (fits : fitsFour first second) (inner : isTail third) (tail : isTail fourth) :
    IsCharacter [first, second, third, fourth]
      ((((first.toNat - 0xF0) * 64 + (second.toNat - 0x80)) * 64 + (third.toNat - 0x80)) * 64 +
        (fourth.toNat - 0x80)) := by
  have ⟨outer, overlong, beyond⟩ := fitsFour_iff.mp fits
  have ⟨secondLow, secondHigh⟩ := isTail_iff.mp outer
  have ⟨thirdLow, thirdHigh⟩ := isTail_iff.mp inner
  have ⟨fourthLow, fourthHigh⟩ := isTail_iff.mp tail
  refine ⟨.four least (by omega) ⟨secondLow, secondHigh⟩ ⟨thirdLow, thirdHigh⟩
    ⟨fourthLow, fourthHigh⟩, ?_, by omega, by omega⟩
  change 0x10000 ≤ _
  omega

end

/-- Whatever is read as a character are the bytes of that character. -/
theorem exists_isCharacter_of_firstChar {first : UInt8} {rest later : List UInt8} {c : Char}
    (read : firstChar first rest = .ok (c, later)) :
    ∃ bytes, first :: rest = bytes ++ later ∧ IsCharacter bytes c.toNat := by
  suffices found : ∃ bytes code, first :: rest = bytes ++ later ∧ IsCharacter bytes code ∧
      Char.ofNat code = c by
    obtain ⟨bytes, code, split, character, rfl⟩ := found
    exact ⟨bytes, split, character.toNat_ofNat.symm ▸ character⟩
  unfold firstChar at read
  simp only [UInt8.le_iff_toNat_le, UInt8.reduceToNat, Bool.and_eq_true, decide_eq_true_eq] at read
  split at read
  · rename_i most
    obtain ⟨rfl, rfl⟩ := Prod.mk.inj (Except.ok.inj read)
    exact ⟨[first], first.toNat, rfl, isCharacter_one most, rfl⟩
  split at read
  · rename_i lead
    split at read
    · cases read
    split at read
    · cases read
    · rename_i tail
      obtain ⟨rfl, rfl⟩ := Prod.mk.inj (Except.ok.inj read)
      exact ⟨_, _, rfl, isCharacter_two lead.1 lead.2 (by simpa using tail), rfl⟩
  split at read
  · rename_i lead
    split at read
    · cases read
    split at read
    · cases read
    rename_i fits
    split at read
    · cases read
    split at read
    · cases read
    · rename_i tail
      obtain ⟨rfl, rfl⟩ := Prod.mk.inj (Except.ok.inj read)
      exact ⟨_, _, rfl, isCharacter_three lead.1 lead.2 (by simpa using fits) (by simpa using tail),
        rfl⟩
  split at read
  · rename_i lead
    split at read
    · cases read
    split at read
    · cases read
    rename_i fits
    split at read
    · cases read
    split at read
    · cases read
    rename_i inner
    split at read
    · cases read
    split at read
    · cases read
    · rename_i tail
      obtain ⟨rfl, rfl⟩ := Prod.mk.inj (Except.ok.inj read)
      exact ⟨_, _, rfl, isCharacter_four lead.1 lead.2 (by simpa using fits) (by simpa using inner)
        (by simpa using tail), rfl⟩
  · cases read

/-- The bytes that encode a character are well formed, with its code. -/
theorem isCharacter_encode (c : Char) : IsCharacter (String.utf8EncodeChar c) c.toNat := by
  obtain ⟨first, later, bytes, read⟩ := firstChar_encode c []
  obtain ⟨found, split, character⟩ := exists_isCharacter_of_firstChar read
  rw [List.append_nil, List.append_nil] at split
  rwa [bytes, split]

theorem eq_ofNat_of_toNat_eq {byte : UInt8} {n : Nat} (same : byte.toNat = n) :
    byte = UInt8.ofNat n := by
  rw [← same, UInt8.ofNat_toNat]

/-- A code has no bytes but those that it is written with. -/
theorem IsCharacter.eq_encode {bytes : List UInt8} {c : Char}
    (character : IsCharacter bytes c.toNat) : bytes = String.utf8EncodeChar c := by
  obtain ⟨carries, shortest, -, -⟩ := character
  have same : c.val.toNat = c.toNat := rfl
  unfold String.utf8EncodeChar
  simp only [same]
  generalize c.toNat = code at carries shortest ⊢
  cases carries with
  | one most => rw [if_pos most, UInt8.ofNat_toNat]
  | two least most continues =>
      have ⟨low, high⟩ := continues
      change 0x80 ≤ _ at shortest
      rw [if_neg (by omega), if_pos (by omega)]
      simp only [List.cons.injEq, and_true]
      exact ⟨eq_ofNat_of_toNat_eq (by omega), eq_ofNat_of_toNat_eq (by omega)⟩
  | three least most inner continues =>
      have ⟨secondLow, secondHigh⟩ := inner
      have ⟨thirdLow, thirdHigh⟩ := continues
      change 0x800 ≤ _ at shortest
      rw [if_neg (by omega), if_neg (by omega), if_pos (by omega)]
      simp only [List.cons.injEq, and_true]
      exact ⟨eq_ofNat_of_toNat_eq (by omega), eq_ofNat_of_toNat_eq (by omega),
        eq_ofNat_of_toNat_eq (by omega)⟩
  | four least most inner further continues =>
      have ⟨secondLow, secondHigh⟩ := inner
      have ⟨thirdLow, thirdHigh⟩ := further
      have ⟨fourthLow, fourthHigh⟩ := continues
      change 0x10000 ≤ _ at shortest
      rw [if_neg (by omega), if_neg (by omega), if_neg (by omega)]
      simp only [List.cons.injEq, and_true]
      exact ⟨eq_ofNat_of_toNat_eq (by omega), eq_ofNat_of_toNat_eq (by omega),
        eq_ofNat_of_toNat_eq (by omega), eq_ofNat_of_toNat_eq (by omega)⟩

theorem encode_cons (c : Char) (text : List Char) :
    encode (c :: text) = String.utf8EncodeChar c ++ encode text :=
  List.flatMap_cons

/-- Bytes are well-formed just if they are the bytes of a text. -/
theorem wellFormed_iff_exists_encode (bytes : List UInt8) :
    WellFormed bytes ↔ ∃ text, encode text = bytes := by
  constructor
  · intro wellFormed
    induction wellFormed with
    | nil => exact ⟨[], rfl⟩
    | @cons bytes later code character rest ih =>
        obtain ⟨text, rfl⟩ := ih
        rw [← character.toNat_ofNat] at character
        refine ⟨Char.ofNat code :: text, ?_⟩
        rw [encode_cons, character.eq_encode]
  · rintro ⟨text, rfl⟩
    induction text with
    | nil => exact .nil
    | cons c text ih =>
        rw [encode_cons]
        exact .cons (isCharacter_encode c) ih

/-- A character that is read, with its bytes. -/
theorem cons_eq_encode_append {first : UInt8} {rest later : List UInt8} {c : Char}
    (read : firstChar first rest = .ok (c, later)) :
    first :: rest = String.utf8EncodeChar c ++ later := by
  obtain ⟨bytes, split, character⟩ := exists_isCharacter_of_firstChar read
  rw [split, character.eq_encode]

/-- A text that was decoded encodes the bytes it came from. -/
theorem encode_of_decodeFrom {offset : Nat} {bytes : List UInt8} {text : List Char}
    (read : decodeFrom offset bytes = .ok text) : encode text = bytes := by
  fun_induction decodeFrom offset bytes generalizing text with
  | case1 =>
      obtain rfl := Except.ok.inj read
      rfl
  | case2 offset first rest width fault => cases read
  | case3 offset first rest c later front _ text behind ih =>
      obtain rfl := Except.ok.inj read
      rw [encode_cons, ih behind, cons_eq_encode_append front]
  | case4 offset first rest c later front _ fault behind ih => cases read

/-- Reading gives the text with the given bytes, and only then gives one. -/
theorem decode_eq_ok_iff {bytes : List UInt8} {text : List Char} :
    decode bytes = .ok text ↔ encode text = bytes := by
  refine ⟨encode_of_decodeFrom, fun written => ?_⟩
  rw [← written, decode_encode]

/-- Just the well-formed sequences of bytes are decoded. -/
theorem exists_decode_iff (bytes : List UInt8) :
    (∃ text, decode bytes = .ok text) ↔ WellFormed bytes := by
  simp only [decode_eq_ok_iff, wellFormed_iff_exists_encode]

instance (bytes : List UInt8) : Decidable (WellFormed bytes) :=
  decidable_of_iff ((decode bytes).isOk = true) (by
    rw [← exists_decode_iff]
    cases decode bytes with
    | error fault => exact iff_of_false Bool.false_ne_true nofun
    | ok text => exact iff_of_true rfl ⟨text, rfl⟩)

/-- A start of the bytes that is well-formed, and is not so any more with further bytes. -/
structure IsLongestStart (bytes start : List UInt8) : Prop where
  leads : start <+: bytes
  wellFormed : WellFormed start
  longest : ∀ other, other <+: bytes → WellFormed other → other.length ≤ start.length

/-- A well-formed start that is not empty begins with the character that is read. -/
theorem WellFormed.eq_nil_or_firstChar {first : UInt8} {rest start : List UInt8}
    (wellFormed : WellFormed start) (leads : start <+: first :: rest) :
    start = [] ∨ ∃ c behind later, firstChar first rest = .ok (c, later) ∧
      start = String.utf8EncodeChar c ++ behind ∧ behind <+: later ∧ WellFormed behind := by
  cases wellFormed with
  | nil => exact .inl rfl
  | @cons bytes behind code character wellFormed =>
      obtain ⟨unread, split⟩ := leads
      rw [List.append_assoc] at split
      have read := firstChar_of_isCharacter character split.symm
      rw [← character.toNat_ofNat] at character
      rw [character.eq_encode]
      exact .inr ⟨_, behind, _, read, rfl, ⟨unread, rfl⟩, wellFormed⟩

/-- Reading from an offset stops behind the longest well-formed start. -/
theorem exists_isLongestStart {offset : Nat} {bytes : List UInt8} {fault : Fault}
    (rejected : decodeFrom offset bytes = .error fault) :
    ∃ start, IsLongestStart bytes start ∧ fault.offset = offset + start.length := by
  fun_induction decodeFrom offset bytes with
  | case1 => cases rejected
  | case2 offset first rest width read =>
      obtain rfl := Except.error.inj rejected
      refine ⟨[], ⟨List.nil_prefix, .nil, fun other leads wellFormed => ?_⟩, rfl⟩
      rcases wellFormed.eq_nil_or_firstChar leads with rfl | ⟨_, _, _, found, -⟩
      · exact le_rfl
      · cases read.symm.trans found
  | case3 offset first rest c later read _ text behind ih => cases rejected
  | case4 offset first rest c later read _ inner behind ih =>
      obtain rfl := Except.error.inj rejected
      obtain ⟨start, ⟨leads, wellFormed, longest⟩, reached⟩ := ih behind
      have split := cons_eq_encode_append read
      refine ⟨String.utf8EncodeChar c ++ start, ⟨?_, ?_, fun other leads wellFormed => ?_⟩, ?_⟩
      · rw [split]
        exact (List.prefix_append_right_inj _).mpr leads
      · exact .cons (isCharacter_encode c) wellFormed
      · rcases wellFormed.eq_nil_or_firstChar leads with
          rfl | ⟨_, further, _, found, rfl, follows, rest⟩
        · exact Nat.zero_le _
        · obtain ⟨rfl, rfl⟩ := Prod.mk.inj (Except.ok.inj (read.symm.trans found))
          have bound := longest further follows rest
          rw [List.length_append, List.length_append]
          omega
      · rw [reached, List.length_append, String.length_utf8EncodeChar, Nat.add_assoc]

/-- The offset that is reported is the length of the longest well-formed start. -/
theorem isGreatest_of_decode_eq_error {bytes : List UInt8} {fault : Fault}
    (rejected : decode bytes = .error fault) :
    IsGreatest {length | length ≤ bytes.length ∧ WellFormed (bytes.take length)} fault.offset := by
  obtain ⟨start, ⟨leads, wellFormed, longest⟩, reached⟩ := exists_isLongestStart rejected
  rw [reached, Nat.zero_add]
  refine ⟨⟨leads.length_le, ?_⟩, fun length other => ?_⟩
  · rwa [← List.prefix_iff_eq_take.mp leads]
  · have bound := longest _ (List.take_prefix length bytes) other.2
    rwa [List.length_take_of_le other.1] at bound

end MarkerReport.Utf8
