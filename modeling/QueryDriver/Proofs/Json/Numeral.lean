import QueryDriver.Json.Numeral
import QueryDriver.Json.Writer
import QueryDriver.Proofs.Text

/-!
Reading integers that have been written. The numeral of an integer is scanned up to the first byte
that cannot belong to it, and means that integer again if sixty-four bits are enough for it.
-/

namespace QueryDriver.Json.Numeral

open Text

def digits (number : Nat) : List Nat :=
  (Nat.toDigits 10 number).map fun digit => digit.toNat - 0x30

/-- The numeral that an integer is written as. -/
def ofInt (value : Int) : Numeral where
  negative := value < 0
  whole := digits value.natAbs
  fraction := none
  exponent := none

/-- What may stand behind an integer. -/
def Stops (rest : List UInt8) : Prop :=
  ∀ byte ∈ rest.head?, isDigit byte = false ∧ byte ≠ 0x2E ∧ byte ≠ 0x65 ∧ byte ≠ 0x45

/-- An integer that sixty-four bits are enough for, with a sign or without. -/
def Fits (value : Int) : Prop :=
  Int64.minValue.toInt ≤ value ∧ value < UInt64.size

theorem range_of_mem_toDigits {number : Nat} {digit : Char}
    (member : digit ∈ Nat.toDigits 10 number) : 0x30 ≤ digit.toNat ∧ digit.toNat ≤ 0x39 := by
  have isDigit := Nat.isDigit_of_mem_toDigits (by decide) (by decide) member
  rw [Char.isDigit, Bool.and_eq_true, decide_eq_true_eq, decide_eq_true_eq] at isDigit
  exact isDigit

theorem utf8_toDigits (number : Nat) :
    utf8 (Nat.toDigits 10 number) =
      (Nat.toDigits 10 number).map fun digit => UInt8.ofNat digit.toNat := by
  apply utf8_plain
  intro digit member
  have range := range_of_mem_toDigits member
  omega

theorem utf8_toDigits_ne_nil (number : Nat) : utf8 (Nat.toDigits 10 number) ≠ [] := by
  rw [utf8_toDigits]
  exact mt List.map_eq_nil_iff.mp Nat.toDigits_ne_nil

theorem isDigit_of_mem_utf8 {number : Nat} {byte : UInt8}
    (member : byte ∈ utf8 (Nat.toDigits 10 number)) : isDigit byte = true := by
  rw [utf8_toDigits] at member
  obtain ⟨digit, isMember, rfl⟩ := List.mem_map.mp member
  have range := range_of_mem_toDigits isMember
  rw [isDigit, decide_eq_true_eq, UInt8.le_iff_toNat_le, UInt8.le_iff_toNat_le]
  simp only [UInt8.toNat_ofNat', UInt8.reduceToNat]
  omega

theorem digits?_toDigits (number : Nat) {rest : List UInt8} (stops : Stops rest) :
    digits? (utf8 (Nat.toDigits 10 number) ++ rest) = some (digits number, rest) := by
  have none : rest.takeWhile isDigit = [] ∧ rest.dropWhile isDigit = rest := by
    cases rest with
    | nil => exact ⟨rfl, rfl⟩
    | cons byte others =>
        have other := (stops byte rfl).1
        simp [other]
  have values : (utf8 (Nat.toDigits 10 number)).map (fun byte => byte.toNat - 0x30) =
      digits number := by
    rw [utf8_toDigits, List.map_map]
    apply List.map_congr_left
    intro digit member
    have range := range_of_mem_toDigits member
    simp only [Function.comp_apply, UInt8.toNat_ofNat']
    omega
  simp only [digits?, List.takeWhile_append_of_pos fun byte => isDigit_of_mem_utf8,
    List.dropWhile_append_of_pos fun byte => isDigit_of_mem_utf8, none, List.append_nil, values]
  rw [if_neg]
  simpa using utf8_toDigits_ne_nil number

theorem head_digits_ne_zero {number : Nat} (positive : 0 < number) :
    (digits number).head? ≠ some 0 := by
  induction number using Nat.strongRecOn with
  | ind number ih =>
      by_cases small : number < 10
      · have other : ∀ digit < 10, 0 < digit → (digits digit).head? ≠ some 0 := by decide
        exact other number small positive
      · have front := ih (number / 10) (by omega) (by omega)
        have nonempty : digits (number / 10) ≠ [] :=
          mt List.map_eq_nil_iff.mp Nat.toDigits_ne_nil
        obtain ⟨first, others, same⟩ := List.exists_cons_of_ne_nil nonempty
        rw [digits, Nat.toDigits_of_base_le (by decide) (by omega), List.map_append]
        change (digits (number / 10) ++ _).head? ≠ some 0
        rw [same] at front ⊢
        exact front

theorem guard_digits (number : Nat) :
    (guard ((digits number).length = 1 ∨ (digits number).head? ≠ some 0) : Option Unit) =
      some () := by
  apply if_pos
  rcases Nat.eq_zero_or_pos number with rfl | positive
  · exact .inl rfl
  · exact .inr (head_digits_ne_zero positive)

theorem scanFraction_stops {rest : List UInt8} (stops : Stops rest) :
    scanFraction rest = some (none, rest) := by
  rw [scanFraction.eq_def]
  split
  · exact absurd rfl (stops 0x2E rfl).2.1
  · rfl

theorem scanExponent_stops {rest : List UInt8} (stops : Stops rest) :
    scanExponent rest = some (none, rest) := by
  cases rest with
  | nil => rfl
  | cons byte others =>
      obtain ⟨_, _, noSmall, noLarge⟩ := stops byte rfl
      rw [scanExponent, if_neg (by simp [noSmall, noLarge])]

theorem scan_intChars (value : Int) {rest : List UInt8} (stops : Stops rest) :
    scan (utf8 (intChars value) ++ rest) = some (ofInt value, rest) := by
  have found := digits?_toDigits value.natAbs stops
  have passed := guard_digits value.natAbs
  have fraction := scanFraction_stops stops
  have exponent := scanExponent_stops stops
  rw [scan.eq_def, ofInt]
  split
  rename_i sign input parts
  have signed : sign = decide (value < 0) ∧
      input = utf8 (Nat.toDigits 10 value.natAbs) ++ rest := by
    by_cases negative : value < 0
    · rw [intChars, if_pos negative] at parts
      cases parts
      exact ⟨(decide_eq_true negative).symm, rfl⟩
    · rw [intChars, if_neg negative] at parts
      split at parts
      -- the first digit is no sign
      · rename_i others same
        obtain ⟨first, more, front⟩ :=
          List.exists_cons_of_ne_nil (utf8_toDigits_ne_nil value.natAbs)
        rw [front, List.cons_append] at same
        have digit : isDigit first = true := isDigit_of_mem_utf8 (front ▸ List.mem_cons_self)
        rw [List.head_eq_of_cons_eq same] at digit
        exact absurd digit (by decide)
      · cases parts
        exact ⟨(decide_eq_false negative).symm, rfl⟩
  rw [signed.1, signed.2]
  exact Option.bind_eq_some_iff.mpr ⟨_, found, Option.bind_eq_some_iff.mpr ⟨_, passed,
    Option.bind_eq_some_iff.mpr ⟨_, fraction, Option.bind_eq_some_iff.mpr ⟨_, exponent, rfl⟩⟩⟩⟩

theorem exists_first (value : Int) :
    ∃ first more, utf8 (intChars value) = first :: more ∧
      (first = 0x2D ∨ isDigit first = true) := by
  by_cases negative : value < 0
  · rw [intChars, if_pos negative]
    exact ⟨0x2D, _, rfl, .inl rfl⟩
  · obtain ⟨first, more, front⟩ := List.exists_cons_of_ne_nil (utf8_toDigits_ne_nil value.natAbs)
    rw [intChars, if_neg negative]
    exact ⟨first, more, front, .inr (isDigit_of_mem_utf8 (front ▸ List.mem_cons_self))⟩

/-- The number that the digits of the whole part make. -/
def magnitude (numeral : Numeral) : Nat :=
  numeral.whole.foldl (fun value digit => 10 * value + digit) 0

/-- An integer that sixty-four bits are enough for, and not zero with a sign. -/
structure IsInteger (numeral : Numeral) : Prop where
  noFraction : numeral.fraction = none
  noExponent : numeral.exponent = none
  fits : if numeral.negative then 0 < numeral.magnitude ∧ numeral.magnitude ≤ Double.signWeight
    else numeral.magnitude < UInt64.size

theorem le_foldl_digits (digits : List Nat) (value : Nat) :
    value ≤ digits.foldl (fun value digit => 10 * value + digit) value := by
  induction digits generalizing value with
  | nil => exact Nat.le_refl value
  | cons digit rest ih =>
      have further := ih (10 * value + digit)
      rw [List.foldl_cons]
      omega

theorem wholePart_of_fits {numeral : Numeral} (fits : numeral.magnitude < UInt64.size) :
    wholePart numeral.whole = (numeral.magnitude, 0) := by
  -- no digit is dropped as long as what is read so far fits
  have read (digits : List Nat) (value : Nat)
      (fits : digits.foldl (fun value digit => 10 * value + digit) value < significandLimit) :
      digits.foldl (fun read digit =>
        if read.2 = 0 ∧ read.1 * 10 + digit < significandLimit then (read.1 * 10 + digit, 0)
        else (read.1, read.2 + 1)) (value, 0) =
          (digits.foldl (fun value digit => 10 * value + digit) value, 0) := by
    induction digits generalizing value with
    | nil => rfl
    | cons digit rest ih =>
        have below : value * 10 + digit < significandLimit := by
          rw [Nat.mul_comm]
          exact Nat.lt_of_le_of_lt (le_foldl_digits rest (10 * value + digit)) fits
        rw [List.foldl_cons, List.foldl_cons]
        simp only [below, and_self, if_true]
        rw [Nat.mul_comm value 10]
        exact ih _ fits
  exact read numeral.whole 0 fits

theorem value?_of_isInteger {numeral : Numeral} (integer : numeral.IsInteger) :
    numeral.value? =
      some (.int (if numeral.negative then -numeral.magnitude else numeral.magnitude)) := by
  obtain ⟨noFraction, noExponent, fits⟩ := integer
  cases negative : numeral.negative with
  | true =>
      rw [negative, if_pos rfl] at fits
      have small : numeral.magnitude < UInt64.size := by
        have bound : Double.signWeight < UInt64.size := by decide
        omega
      have kept : ¬(numeral.magnitude = 0 ∨ Double.signWeight < numeral.magnitude) := by omega
      simp [value?, noFraction, noExponent, negative, wholePart_of_fits small, kept]
  | false =>
      rw [negative, if_neg Bool.false_ne_true] at fits
      simp [value?, noFraction, noExponent, negative, wholePart_of_fits fits]

theorem fits_of_isInteger {numeral : Numeral} (integer : numeral.IsInteger) :
    Fits (if numeral.negative then -numeral.magnitude else numeral.magnitude) := by
  have fits := integer.fits
  have size : UInt64.size = 2 * Double.signWeight := rfl
  change -(Double.signWeight : Int) ≤ _ ∧ _ < (UInt64.size : Int)
  by_cases negative : numeral.negative = true
  · rw [if_pos negative] at fits ⊢
    omega
  · rw [if_neg negative] at fits ⊢
    omega

theorem magnitude_ofInt (value : Int) : (ofInt value).magnitude = value.natAbs := by
  rw [magnitude, ofInt, digits, List.foldl_map]
  exact Nat.ofDigitChars_eq_foldl.symm.trans Nat.ofDigitChars_ten_toDigits

theorem isInteger_ofInt {value : Int} (fits : Fits value) : (ofInt value).IsInteger := by
  have low : -(Double.signWeight : Int) ≤ value := fits.1
  have high : value < UInt64.size := fits.2
  refine ⟨rfl, rfl, ?_⟩
  rw [magnitude_ofInt, ofInt]
  by_cases negative : value < 0
  · rw [if_pos (decide_eq_true negative)]
    omega
  · rw [if_neg (by simpa using negative)]
    omega

theorem value?_ofInt {value : Int} (fits : Fits value) :
    (ofInt value).value? = some (.int value) := by
  rw [value?_of_isInteger (isInteger_ofInt fits), magnitude_ofInt, ofInt]
  by_cases negative : value < 0
  · rw [if_pos (decide_eq_true negative), Int.ofNat_natAbs_of_nonpos (Int.le_of_lt negative),
      Int.neg_neg]
  · rw [if_neg (by simpa using negative), Int.natAbs_of_nonneg (Int.not_lt.mp negative)]

theorem ofInt_injective {first second : Int} (same : ofInt first = ofInt second) :
    first = second := by
  have sign : first < 0 ↔ second < 0 := decide_eq_decide.mp (congrArg negative same)
  have size := congrArg magnitude same
  rw [magnitude_ofInt, magnitude_ofInt] at size
  omega

end QueryDriver.Json.Numeral
