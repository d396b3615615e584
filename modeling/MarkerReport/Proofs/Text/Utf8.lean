import Mathlib.Tactic.Tauto
import MarkerReport.Text.Utf8

/-! # Bytes that are read back

The bytes of a text are well-formed, and reading them gives the text back
(`MarkerReport.Utf8.decode_encode`). The bytes of one character carry its code in groups of six
bits, so the argument is one lemma for each number of bytes.
-/

namespace MarkerReport.Utf8

variable {first second third fourth : UInt8} {rest : List UInt8}

/-- A byte of ASCII is a character by itself. -/
theorem firstChar_one (ascii : first.toNat < 0x80) :
    firstChar first rest = .ok (Char.ofNat first.toNat, rest) := by
  unfold firstChar
  simp only [UInt8.le_iff_toNat_le, UInt8.reduceToNat]
  rw [if_pos (Nat.le_of_lt_succ ascii)]

/-- A lead byte for two with its tail byte is read as one character. -/
theorem firstChar_two (least : 0xC2 ≤ first.toNat) (most : first.toNat ≤ 0xDF)
    (tail : isTail second) :
    firstChar first (second :: rest) = .ok (assemble (first.toNat - 0xC0) [second], rest) := by
  unfold firstChar
  simp only [UInt8.le_iff_toNat_le, UInt8.reduceToNat, Bool.and_eq_true, decide_eq_true_eq]
  rw [if_neg (by omega), if_pos ⟨least, most⟩]
  simp [tail]

/-- A lead byte for three with a second byte that fits it is read as one character. -/
theorem firstChar_three (least : 0xE0 ≤ first.toNat) (most : first.toNat ≤ 0xEF)
    (fits : fitsThree first second) (tail : isTail third) :
    firstChar first (second :: third :: rest) =
      .ok (assemble (first.toNat - 0xE0) [second, third], rest) := by
  unfold firstChar
  simp only [UInt8.le_iff_toNat_le, UInt8.reduceToNat, Bool.and_eq_true, decide_eq_true_eq]
  rw [if_neg (by omega), if_neg (by omega), if_pos ⟨least, most⟩]
  simp [fits, tail]

/-- A lead byte for four with a second byte that fits it is read as one character. -/
theorem firstChar_four (least : 0xF0 ≤ first.toNat) (most : first.toNat ≤ 0xF4)
    (fits : fitsFour first second) (inner : isTail third) (tail : isTail fourth) :
    firstChar first (second :: third :: fourth :: rest) =
      .ok (assemble (first.toNat - 0xF0) [second, third, fourth], rest) := by
  unfold firstChar
  simp only [UInt8.le_iff_toNat_le, UInt8.reduceToNat, Bool.and_eq_true, decide_eq_true_eq]
  rw [if_neg (by omega), if_neg (by omega), if_neg (by omega), if_pos ⟨least, most⟩]
  simp [fits, inner, tail]

/-- The tail bytes, by their range. -/
theorem isTail_iff : isTail second ↔ 0x80 ≤ second.toNat ∧ second.toNat ≤ 0xBF := by
  simp [isTail, UInt8.le_iff_toNat_le]

/-- The second bytes of three, by their range: no longer form than needed, no surrogate. -/
theorem fitsThree_iff :
    fitsThree first second ↔
      isTail second ∧ (first.toNat = 0xE0 → 0xA0 ≤ second.toNat) ∧
        (first.toNat = 0xED → second.toNat ≤ 0x9F) := by
  simp only [fitsThree, Bool.and_eq_true, Bool.or_eq_true, bne_iff_ne, ne_eq, ← UInt8.toNat_inj,
    UInt8.le_iff_toNat_le, UInt8.reduceToNat, decide_eq_true_eq, and_assoc]
  tauto

/-- The second bytes of four, by their range: no longer form than needed, nothing beyond the last
character. -/
theorem fitsFour_iff :
    fitsFour first second ↔
      isTail second ∧ (first.toNat = 0xF0 → 0x90 ≤ second.toNat) ∧
        (first.toNat = 0xF4 → second.toNat ≤ 0x8F) := by
  simp only [fitsFour, Bool.and_eq_true, Bool.or_eq_true, bne_iff_ne, ne_eq, ← UInt8.toNat_inj,
    UInt8.le_iff_toNat_le, UInt8.reduceToNat, decide_eq_true_eq, and_assoc]
  tauto

theorem toNat_byte {n : Nat} (small : n < 256) : (UInt8.ofNat n).toNat = n :=
  UInt8.toNat_ofNat_of_lt small

/-- Six bits behind the mark of a byte that continues a character. -/
theorem toNat_tail (n : Nat) : (UInt8.ofNat (n % 64 + 0x80)).toNat = n % 64 + 0x80 :=
  toNat_byte (by omega)

/-- Six bits behind the mark of a tail are a tail byte. -/
theorem isTail_tail (n : Nat) : isTail (UInt8.ofNat (n % 64 + 0x80)) := by
  rw [isTail_iff, toNat_tail]
  omega

/-- The bytes of a character are read as that character. -/
theorem firstChar_encode (c : Char) (rest : List UInt8) :
    ∃ first later, String.utf8EncodeChar c = first :: later ∧
      firstChar first (later ++ rest) = .ok (c, rest) := by
  have valid : c.toNat < 0xD800 ∨ 0xDFFF < c.toNat ∧ c.toNat < 0x110000 := c.valid
  have same : c.val.toNat = c.toNat := rfl
  unfold String.utf8EncodeChar
  simp only [same]
  split
  · have lead : (UInt8.ofNat c.toNat).toNat = c.toNat := toNat_byte (by omega)
    refine ⟨_, _, rfl, ?_⟩
    rw [List.nil_append, firstChar_one (by omega), lead, Char.ofNat_toNat]
  split
  · have lead : (UInt8.ofNat (c.toNat / 64 % 32 + 0xC0)).toNat = c.toNat / 64 % 32 + 0xC0 :=
      toNat_byte (by omega)
    have code : c.toNat / 64 % 32 * 64 + c.toNat % 64 = c.toNat := by omega
    refine ⟨_, _, rfl, ?_⟩
    rw [List.cons_append, List.nil_append, firstChar_two (by omega) (by omega) (isTail_tail _)]
    simp only [assemble, List.foldl_cons, List.foldl_nil, lead, toNat_tail, Nat.add_sub_cancel,
      code, Char.ofNat_toNat]
  split
  · have lead : (UInt8.ofNat (c.toNat / 4096 % 16 + 0xE0)).toNat = c.toNat / 4096 % 16 + 0xE0 :=
      toNat_byte (by omega)
    have fits : fitsThree (UInt8.ofNat (c.toNat / 4096 % 16 + 0xE0))
        (UInt8.ofNat (c.toNat / 64 % 64 + 0x80)) := by
      rw [fitsThree_iff, lead, toNat_tail]
      refine ⟨isTail_tail _, ?_⟩
      omega
    have code : (c.toNat / 4096 % 16 * 64 + c.toNat / 64 % 64) * 64 + c.toNat % 64 = c.toNat := by
      omega
    refine ⟨_, _, rfl, ?_⟩
    rw [List.cons_append, List.cons_append, List.nil_append,
      firstChar_three (by omega) (by omega) fits (isTail_tail _)]
    simp only [assemble, List.foldl_cons, List.foldl_nil, lead, toNat_tail, Nat.add_sub_cancel,
      code, Char.ofNat_toNat]
  · have lead : (UInt8.ofNat (c.toNat / 262144 % 8 + 0xF0)).toNat = c.toNat / 262144 % 8 + 0xF0 :=
      toNat_byte (by omega)
    have fits : fitsFour (UInt8.ofNat (c.toNat / 262144 % 8 + 0xF0))
        (UInt8.ofNat (c.toNat / 4096 % 64 + 0x80)) := by
      rw [fitsFour_iff, lead, toNat_tail]
      refine ⟨isTail_tail _, ?_⟩
      omega
    have code : ((c.toNat / 262144 % 8 * 64 + c.toNat / 4096 % 64) * 64 + c.toNat / 64 % 64) * 64 +
        c.toNat % 64 = c.toNat := by
      omega
    refine ⟨_, _, rfl, ?_⟩
    rw [List.cons_append, List.cons_append, List.cons_append, List.nil_append,
      firstChar_four (by omega) (by omega) fits (isTail_tail _) (isTail_tail _)]
    simp only [assemble, List.foldl_cons, List.foldl_nil, lead, toNat_tail, Nat.add_sub_cancel,
      code, Char.ofNat_toNat]

/-- An encoded text is decoded to itself, wherever the decoder stands. -/
theorem decodeFrom_encode (text : List Char) (offset : Nat) :
    decodeFrom offset (encode text) = .ok text := by
  induction text generalizing offset with
  | nil => rw [encode, List.flatMap_nil, decodeFrom]
  | cons c text ih =>
      obtain ⟨first, later, bytes, read⟩ := firstChar_encode c (encode text)
      have split : encode (c :: text) = first :: (later ++ encode text) := by
        rw [encode, List.flatMap_cons, bytes, encode, List.cons_append]
      rw [split, decodeFrom]
      split
      · rename_i fault
        rw [read] at fault
        cases fault
      · rename_i found rest given
        rw [read] at given
        cases given
        simp only [ih]

/-- The bytes of a text are read as that text. -/
@[simp] theorem decode_encode (text : List Char) : decode (encode text) = .ok text :=
  decodeFrom_encode text 0

end MarkerReport.Utf8
