import Mathlib.Data.Nat.ModEq
import MarkerReport.Proofs.Text.Folding

/-! # Upper-case forms

The upper-case form of a character is the character itself, or else is written with capital letters
of ASCII and with characters beyond ASCII (`MarkerReport.Text.eq_or_of_mem_capitals`). So no sign
that marks up a text appears in one out of nowhere.

Characters that agree up to case need not have the same upper-case form: the Kelvin sign folds to
the letter k and is its own upper-case form. Five characters go astray like that
(`MarkerReport.Text.strays`), and only where one of them may stand do texts that agree up to case
differ in upper case (`MarkerReport.Text.upper_eq_of_sameFolded`). As with folding, this is read off
the tables run by run.
-/

namespace MarkerReport.Text

/-- A capital letter of ASCII, or a code point beyond ASCII that is a character. -/
def IsCapitalCode (code : Nat) : Prop :=
  0x41 ≤ code ∧ code ≤ 0x5a ∨ 0x80 ≤ code ∧ (code < 0xd800 ∨ 0xdfff < code ∧ code < 0x110000)

instance (code : Nat) : Decidable (IsCapitalCode code) :=
  inferInstanceAs (Decidable (_ ∨ _))

/-- A code point that upper case leads to is a character. -/
theorem IsCapitalCode.toNat_ofNat {code : Nat} (capital : IsCapitalCode code) :
    (Char.ofNat code).toNat = code := by
  apply Text.toNat_ofNat
  unfold IsCapitalCode at capital
  omega

/-- Every run of the table leads to capital letters of ASCII or to characters beyond it. -/
theorem capitalShifts_targets : ∀ shift ∈ capitalShifts,
    shift.target + (shift.last - shift.first) ≤ 0x5a ∧ 0x41 ≤ shift.target ∨
      0x80 ≤ shift.target ∧ (shift.target + (shift.last - shift.first) < 0xd800 ∨
        0xdfff < shift.target ∧ shift.target + (shift.last - shift.first) < 0x110000) := by
  decide +kernel

/-- So does every sequence of the table. -/
theorem capitalSequences_codes : ∀ entry ∈ capitalSequences,
    ∀ code ∈ entry.2, IsCapitalCode code := by
  decide +kernel

/-- What a run of the table leads a code point to is a capital letter of ASCII or a character beyond
it. -/
theorem Shift.isCapitalCode_target {shift : Shift} (listed : shift ∈ capitalShifts) {code : Nat}
    (above : shift.first ≤ code) (below : code ≤ shift.last) :
    IsCapitalCode (shift.target + (code - shift.first)) := by
  have bounds := capitalShifts_targets shift listed
  unfold IsCapitalCode
  omega

/-- The upper-case form of a character is one other character, a sequence, or the character
itself. -/
theorem capitals_cases (c : Char) :
    (∃ shift ∈ capitalShifts, shift.first ≤ c.toNat ∧ c.toNat ≤ shift.last ∧
      capitals c = [Char.ofNat (shift.target + (c.toNat - shift.first))]) ∨
    (∃ codes, (c.toNat, codes) ∈ capitalSequences ∧ capitals c = codes.map Char.ofNat) ∨
    capitals c = [c] := by
  unfold capitals
  split
  · rename_i image found
    obtain ⟨shift, listed, above, below, -, rfl⟩ := Shift.exists_of_find? found
    exact .inl ⟨shift, listed, above, below, rfl⟩
  · split
    · rename_i codes found
      obtain ⟨before, after, whole, -⟩ := List.lookup_eq_some_iff.mp found
      exact .inr (.inl ⟨codes, by simp [whole], rfl⟩)
    · exact .inr (.inr rfl)

/-- A character of an upper-case form is the character itself, a capital letter of ASCII, or lies
beyond ASCII. -/
theorem eq_or_of_mem_capitals {c d : Char} (member : d ∈ capitals c) :
    d = c ∨ IsCapitalCode d.toNat := by
  rcases capitals_cases c with
    ⟨shift, listed, above, below, form⟩ | ⟨codes, listed, form⟩ | form
  · rw [form, List.mem_singleton] at member
    have capital := Shift.isCapitalCode_target listed above below
    rw [member, capital.toNat_ofNat]
    exact .inr capital
  · rw [form, List.mem_map] at member
    obtain ⟨code, inside, rfl⟩ := member
    have capital := capitalSequences_codes _ listed code inside
    exact .inr (capital.toNat_ofNat.symm ▸ capital)
  · rw [form] at member
    exact .inl (List.mem_singleton.mp member)

/-- Upper case brings in no sign of ASCII that is no capital letter. -/
theorem not_mem_upper {sign : Char} {text : List Char} (other : ¬ IsCapitalCode sign.toNat)
    (absent : sign ∉ text) : sign ∉ upper text := by
  intro member
  obtain ⟨c, listed, formed⟩ := List.mem_flatMap.mp member
  rcases eq_or_of_mem_capitals formed with rfl | capital
  · exact absent listed
  · exact other capital

/-- The first of the shifts that does not end before a code point. -/
def Shift.reach? (shifts : List Shift) (code : Nat) : Option Shift :=
  shifts.find? fun shift => code.ble shift.last

/-- Where a shift carries a code point that is not beyond its end. -/
def Shift.carry? (shift : Shift) (code : Nat) : Option Nat :=
  if shift.first ≤ code ∧ (code - shift.first) % shift.step = 0 then
    some (shift.target + (code - shift.first))
  else none

section

variable {shift : Shift} {rest : List Shift} {code : Nat}

theorem Shift.reach?_cons_of_le (reached : code ≤ shift.last) :
    Shift.reach? (shift :: rest) code = some shift :=
  List.find?_cons_of_pos (Nat.ble_eq.mpr reached)

theorem Shift.reach?_cons_of_lt (passed : shift.last < code) :
    Shift.reach? (shift :: rest) code = Shift.reach? rest code := by
  apply List.find?_cons_of_neg
  rw [Nat.ble_eq]
  omega

end

/-- The first shift that does not end before a code point is the only one that can carry it. -/
theorem Shift.find?_eq_bind {shifts : List Shift} (code : Nat)
    (proper : ∀ shift ∈ shifts, shift.first ≤ shift.last) :
    Shift.find? shifts code = (Shift.reach? shifts code).bind fun shift => shift.carry? code := by
  induction shifts with
  | nil => rfl
  | cons shift rest ih =>
      have order := proper shift List.mem_cons_self
      by_cases reached : code ≤ shift.last
      · rw [Shift.reach?_cons_of_le reached, Option.bind_some, Shift.find?, Shift.carry?]
        by_cases before : code < shift.first
        · rw [if_pos before, if_neg (by omega)]
        · simp only [if_neg before, if_pos reached, Nat.le_of_not_lt before, true_and]
      · rw [Shift.reach?_cons_of_lt (by omega), Shift.find?, if_neg (by omega), if_neg reached]
        exact ih fun other listed => proper other (List.mem_cons_of_mem shift listed)

/-- What reaches up to one code point reaches up to a later one, unless it ends in between. -/
theorem Shift.reach?_mono {shifts : List Shift} {low high : Nat} (order : low ≤ high)
    (beyond : ∀ shift, Shift.reach? shifts low = some shift → high ≤ shift.last) :
    Shift.reach? shifts high = Shift.reach? shifts low := by
  induction shifts with
  | nil => rfl
  | cons shift rest ih =>
      by_cases reached : low ≤ shift.last
      · have found : Shift.reach? (shift :: rest) low = some shift :=
          Shift.reach?_cons_of_le reached
        rw [found, Shift.reach?_cons_of_le (beyond shift found)]
      · have passed : Shift.reach? (shift :: rest) low = Shift.reach? rest low :=
          Shift.reach?_cons_of_lt (by omega)
        rw [passed, Shift.reach?_cons_of_lt (by omega)]
        exact ih fun other found => beyond other (passed.trans found)

-- One comparison for each entry that is passed keeps the look-ups below cheap to check.
/-- The upper-case form of a character in code points. -/
def capitalCodes (code : Nat) : List Nat :=
  match (Shift.reach? capitalShifts code).bind fun shift => shift.carry? code with
  | some image => [image]
  | none => ((capitalSequences.find? fun entry => code.beq entry.1).map Prod.snd).getD [code]

/-- No run of the table ends before it starts. -/
theorem capitalShifts_proper : ∀ shift ∈ capitalShifts, shift.first ≤ shift.last := by
  decide +kernel

theorem lookup_eq_map_find? {α : Type} (entries : List (Nat × α)) (code : Nat) :
    entries.lookup code = (entries.find? fun entry => code.beq entry.1).map Prod.snd := by
  induction entries with
  | nil => rfl
  | cons entry rest ih =>
      obtain ⟨key, value⟩ := entry
      by_cases same : code = key
      · have equal : code.beq key = true := Nat.beq_eq.mpr same
        simp only [List.find?_cons, equal, List.lookup_cons, beq_iff_eq.mpr same, Option.map_some]
      · have unequal : code.beq key = false :=
          Bool.eq_false_iff.mpr fun equal => same (Nat.beq_eq.mp equal)
        simp only [List.find?_cons, unequal, List.lookup_cons, beq_false_of_ne same, ih]

/-- The upper-case form of a character, by its code points. -/
theorem capitals_eq_map (c : Char) : capitals c = (capitalCodes c.toNat).map Char.ofNat := by
  unfold capitals capitalCodes
  rw [Shift.find?_eq_bind c.toNat capitalShifts_proper, lookup_eq_map_find?]
  cases (Shift.reach? capitalShifts c.toNat).bind fun shift => shift.carry? c.toNat with
  | some image => rfl
  | none =>
      cases capitalSequences.find? fun entry => c.toNat.beq entry.1 with
      | none => simp
      | some entry => rfl

/-- The sequences of the table are in the order of the code points they stand for. -/
theorem capitalSequences_sorted : capitalSequences.Pairwise fun earlier later =>
    earlier.1 < later.1 := by
  decide +kernel

/-- A table in increasing order has no entry between two code points if it goes on, from the first
of them, behind the second. -/
theorem find?_eq_none_of_gap {α : Type} {entries : List (Nat × α)} {low high code : Nat}
    (sorted : entries.Pairwise fun earlier later => earlier.1 < later.1)
    (gap : (entries.find? fun entry => low.ble entry.1).all fun entry => high.blt entry.1)
    (above : low ≤ code) (below : code ≤ high) :
    entries.find? (fun entry => code.beq entry.1) = none := by
  apply List.find?_eq_none.mpr
  intro entry listed equal
  have same : code = entry.1 := Nat.beq_eq.mp equal
  cases found : entries.find? fun entry => low.ble entry.1 with
  | none =>
      have before := List.find?_eq_none.mp found entry listed
      rw [Nat.ble_eq] at before
      omega
  | some next =>
      rw [found, Option.all_some] at gap
      have beyond : high < next.1 := Nat.ble_eq.mp gap
      obtain ⟨-, earlier, later, whole, before⟩ := List.find?_eq_some_iff_append.mp found
      rw [whole] at listed sorted
      rcases List.mem_append.mp listed with passed | rest
      · have below := before entry passed
        simp only [Bool.not_eq_eq_eq_not, Bool.not_true] at below
        have above : low.ble entry.1 = true := Nat.ble_eq.mpr (by omega)
        rw [below] at above
        exact Bool.noConfusion above
      · rcases List.mem_cons.mp rest with rfl | behind
        · omega
        · have order := (List.pairwise_cons.mp (List.pairwise_append.mp sorted).2.1).1 entry behind
          omega

/-- Whether a run goes on by whole steps of a shift, or does not go on at all. -/
def Run.keepsPace (run : Run) (shift : Shift) : Bool :=
  run.step % shift.step == 0 || run.first == run.last

/-- Where a shift leaves the first code point of a run that begins behind all earlier shifts, if it
leaves the others at the same distances. -/
def Run.carry? (run : Run) (shift : Shift) : Option Nat :=
  if shift.last < run.last then none
  else if run.last < shift.first then some run.first
  else if run.keepsPace shift = false then none
  else if run.first % shift.step ≠ shift.first % shift.step then some run.first
  else if run.first < shift.first then none
  else some (shift.target + (run.first - shift.first))

/-- Where upper case carries the first code point of a run, if it carries the others alike. -/
def Run.capital? (run : Run) : Option Nat :=
  if (capitalSequences.find? fun entry => run.first.ble entry.1).all fun entry =>
      run.last.blt entry.1 then
    ((Shift.reach? capitalShifts run.first).map run.carry?).getD (some run.first)
  else none

/-- A run in pace with a shift stays on its steps, or stays off them. -/
theorem Run.mod_step {run : Run} {shift : Shift} {distance : Nat} (pace : run.keepsPace shift)
    (within : run.first + distance ≤ run.last) (onStep : distance % run.step = 0) :
    (run.first + distance) % shift.step = run.first % shift.step := by
  have whole : distance % shift.step = 0 := by
    rcases Bool.or_eq_true_iff.mp pace with multiple | single
    · have divides : shift.step ∣ run.step := Nat.dvd_of_mod_eq_zero (beq_iff_eq.mp multiple)
      exact Nat.mod_eq_zero_of_dvd (Nat.dvd_trans divides (Nat.dvd_of_mod_eq_zero onStep))
    · have same : run.first = run.last := beq_iff_eq.mp single
      have still : distance = 0 := by omega
      rw [still, Nat.zero_mod]
  rw [Nat.add_mod, whole, Nat.add_zero, Nat.mod_mod]

/-- A shift leaves the code points between its steps alone. -/
theorem Shift.carry?_of_mod_ne {shift : Shift} {code : Nat}
    (off : code % shift.step ≠ shift.first % shift.step) : shift.carry? code = none := by
  apply if_neg
  intro taken
  exact off ((Nat.modEq_iff_dvd' taken.1).mpr (Nat.dvd_of_mod_eq_zero taken.2)).symm

/-- A shift carries the code points on its steps by one distance. -/
theorem Shift.carry?_of_mod_eq {shift : Shift} {code : Nat} (above : shift.first ≤ code)
    (aligned : code % shift.step = shift.first % shift.step) :
    shift.carry? code = some (shift.target + (code - shift.first)) :=
  if_pos ⟨above, Nat.mod_eq_zero_of_dvd ((Nat.modEq_iff_dvd' above).mp aligned.symm)⟩

/-- Where a run is carried as a whole, each of its code points keeps its distance from the first. -/
theorem Run.carry?_spec {run : Run} {shift : Shift} {image distance : Nat}
    (carried : run.carry? shift = some image) (within : run.first + distance ≤ run.last)
    (onStep : distance % run.step = 0) :
    run.last ≤ shift.last ∧
      (shift.carry? (run.first + distance)).getD (run.first + distance) = image + distance := by
  unfold Run.carry? at carried
  split at carried
  case isTrue => exact nomatch carried
  case isFalse inside =>
    refine ⟨Nat.le_of_not_lt inside, ?_⟩
    split at carried
    case isTrue before =>
      have missed : shift.carry? (run.first + distance) = none := if_neg (by omega)
      rw [missed, Option.getD_none, Option.some.inj carried]
    case isFalse =>
      split at carried
      case isTrue => exact nomatch carried
      case isFalse pace =>
        have kept := Run.mod_step (Bool.eq_true_of_not_eq_false pace) within onStep
        split at carried
        case isTrue off =>
          rw [Shift.carry?_of_mod_ne (kept ▸ off), Option.getD_none, Option.some.inj carried]
        case isFalse aligned =>
          split at carried
          case isTrue => exact nomatch carried
          case isFalse above =>
            have start : shift.first ≤ run.first + distance := by omega
            have aligned := kept.trans (not_not.mp aligned)
            rw [Shift.carry?_of_mod_eq start aligned, Option.getD_some,
              ← Option.some.inj carried]
            omega

/-- A code point without a sequence has a single one for upper case, found with one comparison for
each shift passed. -/
theorem capitalCodes_of_single {code : Nat}
    (single : capitalSequences.find? (fun entry => code.beq entry.1) = none) :
    capitalCodes code = [((Shift.reach? capitalShifts code).bind fun shift =>
      shift.carry? code).getD code] := by
  unfold capitalCodes
  rw [single]
  cases (Shift.reach? capitalShifts code).bind fun shift => shift.carry? code <;> rfl

/-- Where upper case carries a run as a whole, each of its code points keeps its distance from the
first. -/
theorem capitalCodes_of_capital? {run : Run} {image distance : Nat}
    (carried : run.capital? = some image) (within : run.first + distance ≤ run.last)
    (onStep : distance % run.step = 0) :
    capitalCodes (run.first + distance) = [image + distance] := by
  have order : run.first ≤ run.first + distance := Nat.le_add_right _ _
  unfold Run.capital? at carried
  split at carried
  case isFalse => exact nomatch carried
  case isTrue gap =>
    rw [capitalCodes_of_single (find?_eq_none_of_gap capitalSequences_sorted gap order within)]
    cases found : Shift.reach? capitalShifts run.first with
    | none =>
        rw [found, Option.map_none, Option.getD_none] at carried
        have reached := Shift.reach?_mono order fun shift other =>
          nomatch found.symm.trans other
        rw [reached, found, Option.bind_none, Option.getD_none, Option.some.inj carried]
    | some shift =>
        rw [found, Option.map_some, Option.getD_some] at carried
        obtain ⟨inside, image_eq⟩ := Run.carry?_spec carried within onStep
        have reached : Shift.reach? capitalShifts (run.first + distance) = some shift := by
          rw [← found]
          apply Shift.reach?_mono order
          intro other same
          rw [← Option.some.inj (found.symm.trans same)]
          omega
        rw [reached, Option.bind_some, image_eq]

/-- The characters whose upper-case form is not that of the character they fold to: the capital
theta symbol, the capital sharp s, and the signs for ohm, kelvin and angstrom. -/
def strays : List Char := ['\u03f4', '\u1e9e', '\u2126', '\u212a', '\u212b']

/-- The code points that a shift takes. -/
def Shift.source (shift : Shift) : Run := ⟨shift.first, shift.last, shift.step⟩

/-- The code points that a shift carries something to. -/
def Shift.image (shift : Shift) : Run :=
  ⟨shift.target, shift.target + (shift.last - shift.first), shift.step⟩

/-- Whether upper case carries the code points that a shift takes to the same run as those that the
shift carries them to. -/
def Shift.joinsRuns (shift : Shift) : Bool :=
  match shift.source.capital?, shift.image.capital? with
  | some first, some second => first.beq second
  | _, _ => false

/-- Whether a shift keeps the upper-case form of every code point that it takes, strays apart. -/
def Shift.keepsCapitals (shift : Shift) : Bool :=
  (List.range ((shift.last - shift.first) / shift.step + 1)).all fun index =>
    (strays.any fun stray => stray.toNat.beq (shift.first + index * shift.step)) ||
      capitalCodes (shift.first + index * shift.step) ==
        capitalCodes (shift.target + index * shift.step)

-- Nearly all shifts are settled as a whole; the rest hold some fifty characters.
/-- Folding keeps the upper-case form, run by run where this shows in a run as a whole and else code
point by code point. -/
theorem foldingShifts_keepCapitals :
    foldingShifts.all fun shift => shift.joinsRuns || shift.keepsCapitals := by
  decide +kernel

/-- What a shift of the folding table takes and what it leads to have the same upper-case form,
strays apart. -/
theorem Shift.capitalCodes_target {shift : Shift} {distance : Nat} (listed : shift ∈ foldingShifts)
    (within : shift.first + distance ≤ shift.last) (onStep : distance % shift.step = 0)
    (regular : ∀ stray ∈ strays, stray.toNat ≠ shift.first + distance) :
    capitalCodes (shift.target + distance) = capitalCodes (shift.first + distance) := by
  rcases Bool.or_eq_true_iff.mp (List.all_eq_true.mp foldingShifts_keepCapitals shift listed)
    with joined | kept
  · unfold Shift.joinsRuns at joined
    split at joined
    case h_2 => exact nomatch joined
    case h_1 first second source image =>
      have far : shift.target + distance ≤ shift.target + (shift.last - shift.first) := by omega
      have left := capitalCodes_of_capital? source within onStep
      have right := capitalCodes_of_capital? image far onStep
      rw [← Nat.beq_eq.mp joined] at right
      exact right.trans left.symm
  · have whole : distance / shift.step * shift.step = distance :=
      Nat.div_mul_cancel (Nat.dvd_of_mod_eq_zero onStep)
    have index : distance / shift.step ∈
        List.range ((shift.last - shift.first) / shift.step + 1) := by
      have bound : distance ≤ shift.last - shift.first := by omega
      exact List.mem_range.mpr (Nat.lt_succ_of_le (Nat.div_le_div_right bound))
    have settled := List.all_eq_true.mp kept _ index
    rw [whole] at settled
    rcases Bool.or_eq_true_iff.mp settled with stray | same
    · obtain ⟨stray, member, equal⟩ := List.any_eq_true.mp stray
      exact (regular stray member (Nat.beq_eq.mp equal)).elim
    · exact (beq_iff_eq.mp same).symm

/-- All characters but the strays have the upper-case form of what they fold to. -/
theorem capitals_fold {c : Char} (regular : c ∉ strays) : capitals (fold c) = capitals c := by
  cases found : Shift.find? foldingShifts c.toNat with
  | none => rw [fold, found]
  | some image =>
      obtain ⟨shift, listed, above, below, onStep, rfl⟩ := Shift.exists_of_find? found
      obtain ⟨distance, start⟩ := Nat.exists_eq_add_of_le above
      rw [start, Nat.add_sub_cancel_left] at onStep
      have valid : (Char.ofNat (shift.target + distance)).toNat = shift.target + distance := by
        apply toNat_ofNat
        have bounds := targets_valid shift listed
        simp only [Shift.targets] at bounds
        omega
      have apart : ∀ stray ∈ strays, stray.toNat ≠ shift.first + distance := by
        intro stray member equal
        exact regular (Char.toNat_inj.mp (start.trans equal.symm) ▸ member)
      rw [fold, found, start, Nat.add_sub_cancel_left, capitals_eq_map, capitals_eq_map, valid,
        start, Shift.capitalCodes_target listed (start ▸ below) onStep apart]

/-- Characters that fold alike have the same upper-case form, where no stray folds that way. -/
theorem capitals_eq_of_fold_eq {c d : Char} (regular : fold c ∉ strays.map fold)
    (same : fold d = fold c) : capitals d = capitals c := by
  have first : c ∉ strays := fun stray => regular (List.mem_map_of_mem stray)
  have second : d ∉ strays := fun stray => regular (same ▸ List.mem_map_of_mem stray)
  rw [← capitals_fold first, ← capitals_fold second, same]

/-- Texts that agree up to case have the same upper-case form, unless a stray may stand in one. -/
theorem upper_eq_of_sameFolded {left right : List Char} (same : sameFolded left right)
    (regular : ∀ c ∈ right, fold c ∉ strays.map fold) : upper left = upper right := by
  rw [sameFolded_iff] at same
  induction right generalizing left with
  | nil => rw [List.map_eq_nil_iff.mp same]
  | cons c rest ih =>
      obtain ⟨d, others, rfl, first, tail⟩ := List.map_eq_cons_iff.mp same
      have agrees := capitals_eq_of_fold_eq (regular c List.mem_cons_self) first
      have behind := ih tail fun e listed => regular e (List.mem_cons_of_mem c listed)
      unfold upper at behind ⊢
      rw [List.flatMap_cons, List.flatMap_cons, agrees, behind]

end MarkerReport.Text
