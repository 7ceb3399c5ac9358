import QueryDriver.Base64

/-!
Base64 has one written form for any bytes: a text reads as some bytes exactly if it is their text.
-/

namespace QueryDriver.Base64

theorem value_letter {value : Nat} (small : value < 64) :
    value? (letter value) = some value ∧ letter value ≠ '=' := by
  have all : ∀ value < 64, value? (letter value) = some value ∧ letter value ≠ '=' := by decide
  exact all value small

theorem letter_of_value {code : Char} {value : Nat} (read : value? code = some value) :
    value < 64 ∧ letter value = code := by
  have same := Char.ofNat_toNat code
  simp only [value?] at read
  split at read
  · obtain rfl := Option.some.inj read
    have back : code.toNat - 65 + 65 = code.toNat := by omega
    rw [letter, if_pos (by omega), back]
    exact ⟨by omega, same⟩
  split at read
  · obtain rfl := Option.some.inj read
    have back : code.toNat - 97 + 26 - 26 + 97 = code.toNat := by omega
    rw [letter, if_neg (by omega), if_pos (by omega), back]
    exact ⟨by omega, same⟩
  split at read
  · obtain rfl := Option.some.inj read
    have back : code.toNat - 48 + 52 - 52 + 48 = code.toNat := by omega
    rw [letter, if_neg (by omega), if_neg (by omega), if_pos (by omega), back]
    exact ⟨by omega, same⟩
  split at read
  · rename_i plus
    obtain rfl := Option.some.inj read
    exact ⟨by decide, plus.symm⟩
  split at read
  · rename_i slash
    obtain rfl := Option.some.inj read
    exact ⟨by decide, slash.symm⟩
  · simp at read

theorem ofNat_eq_of_mod {number : Nat} {byte : UInt8} (same : number % 256 = byte.toNat) :
    UInt8.ofNat number = byte := by
  apply UInt8.toNat_inj.mp
  rw [UInt8.toNat_ofNat']
  exact same

section

variable (a b c : UInt8)

theorem group_letters :
    group? (letter (a.toNat / 4)) (letter (a.toNat % 4 * 16 + b.toNat / 16))
      (letter (b.toNat % 16 * 4 + c.toNat / 64)) (letter (c.toNat % 64)) = some [a, b, c] := by
  have boundA := a.toNat_lt
  have boundB := b.toNat_lt
  have boundC := c.toNat_lt
  rw [group?, (value_letter (by omega)).1, (value_letter (by omega)).1,
    (value_letter (by omega)).1, (value_letter (by omega)).1]
  simp only [Option.pure_def, Option.bind_eq_bind, Option.bind_some, Option.some.injEq,
    List.cons.injEq, and_true]
  exact ⟨ofNat_eq_of_mod (by omega), ofNat_eq_of_mod (by omega), ofNat_eq_of_mod (by omega)⟩

theorem lastGroup_two_letters :
    lastGroup? (letter (a.toNat / 4)) (letter (a.toNat % 4 * 16 + b.toNat / 16))
      (letter (b.toNat % 16 * 4)) '=' = some [a, b] := by
  have boundA := a.toNat_lt
  have boundB := b.toNat_lt
  rw [lastGroup?, if_pos rfl, if_neg (value_letter (by omega)).2, (value_letter (by omega)).1,
    (value_letter (by omega)).1, (value_letter (by omega)).1]
  simp only [Option.pure_def, Option.bind_eq_bind, Option.bind_some]
  rw [if_pos (by omega), Option.some.injEq, List.cons.injEq, List.cons.injEq]
  exact ⟨ofNat_eq_of_mod (by omega), ofNat_eq_of_mod (by omega), rfl⟩

theorem lastGroup_one_letter :
    lastGroup? (letter (a.toNat / 4)) (letter (a.toNat % 4 * 16)) '=' '=' = some [a] := by
  have boundA := a.toNat_lt
  rw [lastGroup?, if_pos rfl, if_pos rfl, (value_letter (by omega)).1,
    (value_letter (by omega)).1]
  simp only [Option.pure_def, Option.bind_eq_bind, Option.bind_some]
  rw [if_pos (by omega), Option.some.injEq, List.cons.injEq]
  exact ⟨ofNat_eq_of_mod (by omega), rfl⟩

end

theorem decodeChars_encodeChars (bytes : List UInt8) :
    decodeChars? (encodeChars bytes) = some bytes := by
  fun_induction encodeChars bytes with
  | case1 => rfl
  | case2 a => exact lastGroup_one_letter a
  | case3 a b => exact lastGroup_two_letters a b
  | case4 a b c rest ih =>
      have bound := c.toNat_lt
      cases more : encodeChars rest with
      | nil =>
          rw [more] at ih
          obtain rfl : [] = rest := Option.some.inj ih
          rw [decodeChars?, lastGroup?, if_neg (value_letter (by omega)).2]
          exact group_letters a b c
      | cons first others =>
          rw [more] at ih
          rw [decodeChars?, group_letters, ih]
          · rfl
          · simp

theorem letters_of_group {w x y z : Char} {bytes : List UInt8}
    (read : group? w x y z = some bytes) (rest : List UInt8) :
    encodeChars (bytes ++ rest) = w :: x :: y :: z :: encodeChars rest := by
  simp only [group?, Option.pure_def, Option.bind_eq_bind, Option.bind_eq_some_iff,
    Option.some.injEq] at read
  obtain ⟨first, readFirst, second, readSecond, third, readThird, fourth, readFourth, rfl⟩ := read
  obtain ⟨smallFirst, rfl⟩ := letter_of_value readFirst
  obtain ⟨smallSecond, rfl⟩ := letter_of_value readSecond
  obtain ⟨smallThird, rfl⟩ := letter_of_value readThird
  obtain ⟨smallFourth, rfl⟩ := letter_of_value readFourth
  simp only [List.cons_append, List.nil_append, encodeChars, UInt8.toNat_ofNat', List.cons.injEq,
    and_true]
  refine ⟨congrArg letter ?_, congrArg letter ?_, congrArg letter ?_, congrArg letter ?_⟩ <;> omega

theorem letters_of_lastGroup {w x y z : Char} {bytes : List UInt8}
    (read : lastGroup? w x y z = some bytes) : encodeChars bytes = [w, x, y, z] := by
  rw [lastGroup?] at read
  split at read
  · subst z
    split at read
    · subst y
      simp only [Option.pure_def, Option.bind_eq_bind, Option.bind_eq_some_iff] at read
      obtain ⟨first, readFirst, second, readSecond, read⟩ := read
      obtain ⟨smallFirst, rfl⟩ := letter_of_value readFirst
      obtain ⟨smallSecond, rfl⟩ := letter_of_value readSecond
      split at read
      · rename_i clear
        obtain rfl := Option.some.inj read
        simp only [encodeChars, UInt8.toNat_ofNat', List.cons.injEq, and_true]
        refine ⟨congrArg letter ?_, congrArg letter ?_⟩ <;> omega
      · simp at read
    · simp only [Option.pure_def, Option.bind_eq_bind, Option.bind_eq_some_iff] at read
      obtain ⟨first, readFirst, second, readSecond, third, readThird, read⟩ := read
      obtain ⟨smallFirst, rfl⟩ := letter_of_value readFirst
      obtain ⟨smallSecond, rfl⟩ := letter_of_value readSecond
      obtain ⟨smallThird, rfl⟩ := letter_of_value readThird
      split at read
      · rename_i clear
        obtain rfl := Option.some.inj read
        simp only [encodeChars, UInt8.toNat_ofNat', List.cons.injEq, and_true]
        refine ⟨congrArg letter ?_, congrArg letter ?_, congrArg letter ?_⟩ <;> omega
      · simp at read
  · have whole := letters_of_group read []
    rwa [List.append_nil] at whole

theorem encodeChars_of_decodeChars {letters : List Char} {bytes : List UInt8}
    (read : decodeChars? letters = some bytes) : encodeChars bytes = letters := by
  fun_induction decodeChars? letters generalizing bytes with
  | case1 =>
      obtain rfl := Option.some.inj read
      rfl
  | case2 w x y z => exact letters_of_lastGroup read
  | case3 w x y z rest _ first others readOthers readFirst ih =>
      obtain rfl := Option.some.inj read
      rw [letters_of_group readFirst, ih readOthers]
  | case4 => simp at read
  | case5 => simp at read

theorem mem_encodeChars {bytes : List UInt8} {code : Char} (member : code ∈ encodeChars bytes) :
    code = '=' ∨ ∃ value < 64, code = letter value := by
  fun_induction encodeChars bytes with
  | case1 => cases member
  | case2 a =>
      have bound := a.toNat_lt
      simp only [List.mem_cons, List.not_mem_nil, or_false, or_self] at member
      rcases member with rfl | rfl | rfl
      · exact .inr ⟨_, by omega, rfl⟩
      · exact .inr ⟨_, by omega, rfl⟩
      · exact .inl rfl
  | case3 a b =>
      have boundA := a.toNat_lt
      have boundB := b.toNat_lt
      simp only [List.mem_cons, List.not_mem_nil, or_false] at member
      rcases member with rfl | rfl | rfl | rfl
      · exact .inr ⟨_, by omega, rfl⟩
      · exact .inr ⟨_, by omega, rfl⟩
      · exact .inr ⟨_, by omega, rfl⟩
      · exact .inl rfl
  | case4 a b c rest ih =>
      have boundA := a.toNat_lt
      have boundB := b.toNat_lt
      have boundC := c.toNat_lt
      simp only [List.mem_cons] at member
      rcases member with rfl | rfl | rfl | rfl | later
      · exact .inr ⟨_, by omega, rfl⟩
      · exact .inr ⟨_, by omega, rfl⟩
      · exact .inr ⟨_, by omega, rfl⟩
      · exact .inr ⟨_, by omega, rfl⟩
      · exact ih later

/-- What holds of the padding and of all letters holds of everything written. -/
theorem forall_mem_encodeChars {holds : Char → Prop} (padding : holds '=')
    (letters : ∀ value < 64, holds (letter value)) (bytes : List UInt8) :
    ∀ code ∈ encodeChars bytes, holds code := by
  intro code member
  rcases mem_encodeChars member with rfl | ⟨value, small, rfl⟩
  · exact padding
  · exact letters value small

theorem comma_not_mem_encodeChars (bytes : List UInt8) : ',' ∉ encodeChars bytes :=
  have other : ∀ code ∈ encodeChars bytes, code ≠ ',' :=
    forall_mem_encodeChars (by decide) (by decide) bytes
  fun member => other _ member rfl

theorem length_encodeChars (bytes : List UInt8) :
    (encodeChars bytes).length = (bytes.length + 2) / 3 * 4 := by
  fun_induction encodeChars bytes with
  | case1 => rfl
  | case2 a => simp
  | case3 a b => simp
  | case4 a b c rest ih =>
      simp only [List.length_cons, ih]
      omega

theorem encodeChars_ne_nil {bytes : List UInt8} (some : bytes ≠ []) : encodeChars bytes ≠ [] := by
  fun_cases encodeChars bytes
  · exact absurd rfl some
  all_goals exact List.cons_ne_nil _ _

/-- A text reads as some bytes exactly if it is their text. -/
theorem decode_eq_some_iff {text : String} {bytes : List UInt8} :
    decode? text = some bytes ↔ text = encode bytes := by
  constructor
  · intro read
    rw [encode, encodeChars_of_decodeChars read, String.ofList_toList]
  · rintro rfl
    rw [decode?, encode, String.toList_ofList]
    exact decodeChars_encodeChars bytes

end QueryDriver.Base64
