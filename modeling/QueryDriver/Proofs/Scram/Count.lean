import QueryDriver.Scram.Count

/-!
Which texts are iteration counts, and what is wrong with the others. Reading stops at the first
letter that is no digit or that makes the count too large, so that of two faults in one text the
earlier one is told.
-/

namespace QueryDriver.Scram

/-- What stands behind an optional plus sign. -/
def unsigned : List Char → List Char
  | '+' :: digits => digits
  | digits => digits

/-- Decimal digits, with or without a plus sign, for a number of thirty-two bits. -/
structure Counts (letters : List Char) (number : Nat) : Prop where
  nonempty : unsigned letters ≠ []
  digits : ∀ digit ∈ unsigned letters, digit.isDigit
  value : number = Nat.ofDigitChars 10 (unsigned letters) 0
  bounded : number < UInt32.size

/-- What is wrong with a text that is no count. -/
inductive Miscounts : List Char → CountFault → Prop
  | empty : Miscounts [] .empty
  | sign : Miscounts ['+'] .invalidDigit
  | invalidDigit {letters digits rest : List Char} {letter : Char}
      (split : unsigned letters = digits ++ letter :: rest)
      (before : ∀ digit ∈ digits, digit.isDigit)
      (fits : Nat.ofDigitChars 10 digits 0 < UInt32.size)
      (strange : ¬letter.isDigit) : Miscounts letters .invalidDigit
  | tooLarge {letters digits rest : List Char}
      (split : unsigned letters = digits ++ rest)
      (before : ∀ digit ∈ digits, digit.isDigit)
      (exceeds : UInt32.size ≤ Nat.ofDigitChars 10 digits 0) : Miscounts letters .tooLarge

theorem unsigned_of_plain {letters : List Char} (plain : ∀ digits, letters ≠ '+' :: digits) :
    unsigned letters = letters := by
  rw [unsigned]
  exact plain

theorem eq_of_unsigned_nil {letters : List Char} (none : unsigned letters = []) :
    letters = [] ∨ letters = ['+'] := by
  fun_cases unsigned letters with
  | case1 digits =>
      obtain rfl : digits = [] := none
      exact .inr rfl
  | case2 _ plain => exact .inl ((unsigned_of_plain plain).symm.trans none)

section Digits

variable {count : Nat} {digits rest : List Char}

theorem le_ofDigitChars (count : Nat) (digits : List Char) :
    count ≤ Nat.ofDigitChars 10 digits count := by
  induction digits generalizing count with
  | nil => exact Nat.le_of_eq Nat.ofDigitChars_nil.symm
  | cons digit rest ih =>
      rw [Nat.ofDigitChars_cons]
      have grown := ih (10 * count + (digit.toNat - '0'.toNat))
      omega

theorem readDigits_append (before : ∀ digit ∈ digits, digit.isDigit)
    (fits : Nat.ofDigitChars 10 digits count < UInt32.size) :
    readDigits count (digits ++ rest) = readDigits (Nat.ofDigitChars 10 digits count) rest := by
  induction digits generalizing count with
  | nil => rw [List.nil_append, Nat.ofDigitChars_nil]
  | cons digit others ih =>
      obtain ⟨first, behind⟩ := List.forall_mem_cons.mp before
      rw [Nat.ofDigitChars_cons, Nat.mul_comm] at fits ⊢
      have below := Nat.lt_of_le_of_lt (le_ofDigitChars _ others) fits
      rw [List.cons_append, readDigits, if_pos first]
      exact (if_pos below).trans (ih behind fits)

theorem readDigits_tooLarge (before : ∀ digit ∈ digits, digit.isDigit)
    (start : count < UInt32.size) (exceeds : UInt32.size ≤ Nat.ofDigitChars 10 digits count) :
    readDigits count (digits ++ rest) = .error .tooLarge := by
  induction digits generalizing count with
  | nil =>
      rw [Nat.ofDigitChars_nil] at exceeds
      omega
  | cons digit others ih =>
      obtain ⟨first, behind⟩ := List.forall_mem_cons.mp before
      rw [Nat.ofDigitChars_cons, Nat.mul_comm] at exceeds
      rw [List.cons_append, readDigits, if_pos first]
      by_cases below : count * 10 + (digit.toNat - '0'.toNat) < UInt32.size
      · exact (if_pos below).trans (ih behind below exceeds)
      · exact if_neg below

/-- Letters are digits throughout or up to one that is none. -/
theorem digits_or_split (letters : List Char) :
    (∀ letter ∈ letters, letter.isDigit) ∨
      ∃ digits letter rest, letters = digits ++ letter :: rest ∧
        (∀ digit ∈ digits, digit.isDigit) ∧ ¬letter.isDigit := by
  induction letters with
  | nil => exact .inl nofun
  | cons letter rest ih =>
      by_cases digit : letter.isDigit
      · rcases ih with throughout | ⟨digits, strange, behind, rfl, before, other⟩
        · exact .inl (List.forall_mem_cons.mpr ⟨digit, throughout⟩)
        · exact .inr ⟨letter :: digits, strange, behind, rfl,
            List.forall_mem_cons.mpr ⟨digit, before⟩, other⟩
      · exact .inr ⟨[], letter, rest, rfl, nofun, digit⟩

end Digits

section Count

variable {text : String} {number : Nat} {fault : CountFault}

theorem readCount_of_unsigned (nonempty : unsigned text.toList ≠ []) :
    readCount text = readDigits 0 (unsigned text.toList) := by
  rw [readCount]
  generalize text.toList = letters at nonempty
  split
  · exact absurd rfl nonempty
  · exact absurd rfl nonempty
  · rfl
  · rename_i plain
    rw [unsigned_of_plain plain]

theorem readCount_of_counts (counts : Counts text.toList number) :
    readCount text = .ok number := by
  rw [readCount_of_unsigned counts.nonempty, ← List.append_nil (unsigned text.toList),
    readDigits_append counts.digits (counts.value ▸ counts.bounded), counts.value]
  rfl

theorem readCount_of_miscounts (miscounts : Miscounts text.toList fault) :
    readCount text = .error fault := by
  generalize given : text.toList = letters at miscounts
  cases miscounts with
  | empty => rw [readCount, given]
  | sign =>
      rw [readCount, given]
      rfl
  | invalidDigit split before fits strange =>
      subst given
      rw [readCount_of_unsigned (by simp [split]), split, readDigits_append before fits,
        readDigits, if_neg strange]
  | @tooLarge _ digits rest split before exceeds =>
      subst given
      have some : digits ≠ [] := by
        rintro rfl
        rw [Nat.ofDigitChars_nil] at exceeds
        exact absurd exceeds (by decide)
      rw [readCount_of_unsigned (by simp [split, some]), split,
        readDigits_tooLarge before (by decide) exceeds]

theorem counts_or_miscounts (letters : List Char) :
    (∃ number, Counts letters number) ∨ ∃ fault, Miscounts letters fault := by
  rcases digits_or_split (unsigned letters) with
    digits | ⟨digits, strange, rest, split, before, other⟩
  · by_cases nonempty : unsigned letters = []
    · rcases eq_of_unsigned_nil nonempty with rfl | rfl
      · exact .inr ⟨.empty, .empty⟩
      · exact .inr ⟨.invalidDigit, .sign⟩
    · by_cases fits : Nat.ofDigitChars 10 (unsigned letters) 0 < UInt32.size
      · exact .inl ⟨_, nonempty, digits, rfl, fits⟩
      · exact .inr ⟨.tooLarge, .tooLarge (List.append_nil _).symm digits (Nat.le_of_not_lt fits)⟩
  · by_cases fits : Nat.ofDigitChars 10 digits 0 < UInt32.size
    · exact .inr ⟨.invalidDigit, .invalidDigit split before fits other⟩
    · exact .inr ⟨.tooLarge, .tooLarge split before (Nat.le_of_not_lt fits)⟩

theorem readCount_eq_ok_iff : readCount text = .ok number ↔ Counts text.toList number := by
  constructor
  · intro read
    rcases counts_or_miscounts text.toList with ⟨other, counts⟩ | ⟨fault, miscounts⟩
    · rw [readCount_of_counts counts] at read
      cases read
      exact counts
    · rw [readCount_of_miscounts miscounts] at read
      cases read
  · exact readCount_of_counts

theorem readCount_eq_error_iff : readCount text = .error fault ↔ Miscounts text.toList fault := by
  constructor
  · intro read
    rcases counts_or_miscounts text.toList with ⟨number, counts⟩ | ⟨other, miscounts⟩
    · rw [readCount_of_counts counts] at read
      cases read
    · rw [readCount_of_miscounts miscounts] at read
      cases read
      exact miscounts
  · exact readCount_of_miscounts

end Count

end QueryDriver.Scram
