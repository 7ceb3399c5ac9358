import Mathlib.Tactic.IntervalCases
import QueryDriver.Text.Lossy

/-!
Texts as bytes. A character is one byte below `0x80`, or several bytes from there on; the bytes of
a text are read back as that text, and bytes that are no text keep the characters in front of them.
-/

namespace QueryDriver.Text

/-- The bytes of characters. -/
def utf8 (chars : List Char) : List UInt8 :=
  chars.flatMap String.utf8EncodeChar

@[simp] theorem utf8_nil : utf8 [] = [] :=
  rfl

theorem utf8_cons (first : Char) (rest : List Char) :
    utf8 (first :: rest) = String.utf8EncodeChar first ++ utf8 rest :=
  List.flatMap_cons

@[simp] theorem utf8_append (first second : List Char) :
    utf8 (first ++ second) = utf8 first ++ utf8 second :=
  List.flatMap_append

theorem length_utf8 (chars : List Char) : chars.length ≤ (utf8 chars).length := by
  induction chars with
  | nil => exact Nat.le_refl 0
  | cons first rest ih =>
      have positive := first.utf8Size_pos
      rw [utf8_cons, List.length_append, List.length_cons, String.length_utf8EncodeChar]
      omega

theorem bytes_ofList (chars : List Char) : bytes (String.ofList chars) = utf8 chars := by
  rw [bytes, String.toUTF8_eq_toByteArray, String.toByteArray_ofList]
  exact List.toList_data_toByteArray

theorem utf8EncodeChar_plain {character : Char} (small : character.toNat < 0x80) :
    String.utf8EncodeChar character = [UInt8.ofNat character.toNat] := by
  have low : character.val.toNat ≤ 127 := Nat.le_of_lt_succ small
  rw [String.utf8EncodeChar, if_pos low]
  rfl

theorem utf8_plain {chars : List Char} (plain : ∀ character ∈ chars, character.toNat < 0x80) :
    utf8 chars = chars.map fun character => UInt8.ofNat character.toNat := by
  induction chars with
  | nil => rfl
  | cons first rest ih =>
      obtain ⟨small, plain⟩ := List.forall_mem_cons.mp plain
      rw [utf8_cons, utf8EncodeChar_plain small, ih plain]
      rfl

theorem large_of_mem_utf8EncodeChar {character : Char} (large : 0x80 ≤ character.toNat)
    {byte : UInt8} (member : byte ∈ String.utf8EncodeChar character) : 0x80 ≤ byte := by
  have high : ¬character.val.toNat ≤ 127 := Nat.not_le_of_lt large
  rw [UInt8.le_iff_toNat_le]
  simp only [String.utf8EncodeChar, high, if_false] at member
  split at member
  · simp only [List.mem_cons, List.not_mem_nil, or_false] at member
    rcases member with rfl | rfl <;> simp only [UInt8.toNat_ofNat', UInt8.reduceToNat] <;> omega
  · split at member
    · simp only [List.mem_cons, List.not_mem_nil, or_false] at member
      rcases member with rfl | rfl | rfl <;>
        simp only [UInt8.toNat_ofNat', UInt8.reduceToNat] <;> omega
    · simp only [List.mem_cons, List.not_mem_nil, or_false] at member
      rcases member with rfl | rfl | rfl | rfl <;>
        simp only [UInt8.toNat_ofNat', UInt8.reduceToNat] <;> omega

theorem fromUTF8?_utf8 (text : String) :
    String.fromUTF8? ⟨(utf8 text.toList).toArray⟩ = some text := by
  have same : (⟨(utf8 text.toList).toArray⟩ : ByteArray) = text.toByteArray := by
    rw [← bytes_ofList, String.ofList_toList]
    rfl
  rw [same, String.fromUTF8?, dif_pos text.isValidUTF8]
  rfl

theorem startCharacter_found (byte : UInt8) (found : List Char) :
    ∃ begun more, startCharacter byte found = (begun, more ++ found) := by
  rw [startCharacter]
  split
  · exact ⟨none, [_], rfl⟩
  · split
    · exact ⟨_, [], rfl⟩
    · exact ⟨none, [replacement], rfl⟩

theorem lossyChars_found (bytes : List UInt8) (begun : Option Begun) (found : List Char) :
    ∃ more, lossyChars bytes begun found = found.reverse ++ more := by
  induction bytes generalizing begun found with
  | nil =>
      cases begun with
      | none => exact ⟨[], (List.append_nil _).symm⟩
      | some begun => exact ⟨[replacement], List.reverse_cons⟩
  | cons byte rest ih =>
      -- whatever the byte does, characters are only put in front of those found
      have extended (begun : Option Begun) (more : List Char) :
          ∃ others, lossyChars rest begun (more ++ found) = found.reverse ++ others := by
        obtain ⟨others, same⟩ := ih begun (more ++ found)
        exact ⟨more.reverse ++ others, by rw [same, List.reverse_append, List.append_assoc]⟩
      cases begun with
      | none =>
          obtain ⟨begun, more, same⟩ := startCharacter_found byte found
          rw [lossyChars, same]
          exact extended begun more
      | some begun =>
          rw [lossyChars]
          by_cases continued : begun.low ≤ byte ∧ byte ≤ begun.high
          · rw [if_pos continued]
            dsimp only
            split
            · exact extended none [_]
            · exact extended _ []
          · obtain ⟨begun, more, same⟩ := startCharacter_found byte (replacement :: found)
            rw [if_neg continued, same, List.append_cons]
            exact extended begun (more ++ [replacement])

/-- A first byte that is a character by itself is the first character. -/
theorem lossy_plain {byte : UInt8} (plain : byte < 0x80) (rest : List UInt8) :
    ∃ more, (lossy (byte :: rest)).toList = Char.ofNat byte.toNat :: more := by
  rw [lossy, String.toList_ofList, lossyChars, startCharacter, if_pos plain]
  exact lossyChars_found rest none [_]

theorem begin?_two {lead : Nat} (low : 2 ≤ lead) (high : lead < 32) :
    begin? (UInt8.ofNat (lead + 192)) = some ⟨1, lead, 0x80, 0xBF⟩ := by
  interval_cases lead <;> rfl

theorem begin?_three {lead : Nat} (high : lead < 16) :
    begin? (UInt8.ofNat (lead + 224)) =
      some ⟨2, lead, if lead = 0 then 0xA0 else 0x80, if lead = 13 then 0x9F else 0xBF⟩ := by
  interval_cases lead <;> rfl

theorem begin?_four {lead : Nat} (high : lead < 5) :
    begin? (UInt8.ofNat (lead + 240)) =
      some ⟨3, lead, if lead = 0 then 0x90 else 0x80, if lead = 4 then 0x8F else 0xBF⟩ := by
  interval_cases lead <;> rfl

theorem lossyChars_begin {lead : Nat} {begun : Begun} (begins : begin? (UInt8.ofNat lead) = some begun)
    (large : 128 ≤ lead) (small : lead < 256) (rest : List UInt8) (found : List Char) :
    lossyChars (UInt8.ofNat lead :: rest) none found = lossyChars rest (some begun) found := by
  have above : ¬UInt8.ofNat lead < 0x80 := by
    rw [UInt8.lt_iff_toNat_lt, UInt8.toNat_ofNat_of_lt' small]
    exact Nat.not_lt.mpr large
  rw [lossyChars, startCharacter, if_neg above, begins]

section Continued

variable {value bits : Nat} {low high : UInt8} (few : bits < 64)
  (above : low.toNat ≤ bits + 128) (below : bits + 128 ≤ high.toNat)

include few above below

theorem continues :
    (low ≤ UInt8.ofNat (bits + 128) ∧ UInt8.ofNat (bits + 128) ≤ high) ∧
      (UInt8.ofNat (bits + 128)).toNat - 0x80 = bits := by
  have number : (UInt8.ofNat (bits + 128)).toNat = bits + 128 :=
    UInt8.toNat_ofNat_of_lt' (show bits + 128 < 256 by omega)
  rw [UInt8.le_iff_toNat_le, UInt8.le_iff_toNat_le, number]
  exact ⟨⟨above, below⟩, Nat.add_sub_cancel _ _⟩

theorem lossyChars_more (owed : Nat) (rest : List UInt8) (found : List Char) :
    lossyChars (UInt8.ofNat (bits + 128) :: rest) (some ⟨owed + 2, value, low, high⟩) found =
      lossyChars rest (some ⟨owed + 1, value * 64 + bits, 0x80, 0xBF⟩) found := by
  obtain ⟨fits, number⟩ := continues few above below
  rw [lossyChars, if_pos fits, number]
  exact if_neg (by simp)

theorem lossyChars_last (rest : List UInt8) (found : List Char) :
    lossyChars (UInt8.ofNat (bits + 128) :: rest) (some ⟨1, value, low, high⟩) found =
      lossyChars rest none (Char.ofNat (value * 64 + bits) :: found) := by
  obtain ⟨fits, number⟩ := continues few above below
  rw [lossyChars, if_pos fits, number]
  exact if_pos rfl

end Continued

theorem lossyChars_utf8EncodeChar (character : Char) (rest : List UInt8) (found : List Char) :
    lossyChars (String.utf8EncodeChar character ++ rest) none found =
      lossyChars rest none (character :: found) := by
  obtain ⟨value, number⟩ : ∃ value, character.val.toNat = value := ⟨_, rfl⟩
  have same : Char.ofNat value = character := number ▸ Char.ofNat_toNat character
  have valid : value < 0xD800 ∨ 0xDFFF < value ∧ value < 0x110000 := number ▸ character.valid
  rw [String.utf8EncodeChar, number]
  by_cases one : value ≤ 127
  · have byte : (UInt8.ofNat value).toNat = value :=
      UInt8.toNat_ofNat_of_lt' (show value < 256 by omega)
    have plain : UInt8.ofNat value < 0x80 := by
      rw [UInt8.lt_iff_toNat_lt, byte]
      exact Nat.lt_succ_of_le one
    rw [if_pos one, List.singleton_append, lossyChars, startCharacter, if_pos plain, byte, same]
  rw [if_neg one]
  by_cases two : value ≤ 2047
  · have bits : value / 64 % 32 * 64 + value % 64 = value := by omega
    rw [if_pos two, List.cons_append, List.singleton_append,
      lossyChars_begin (begin?_two (by omega) (by omega)) (by omega) (by omega),
      lossyChars_last (by omega) (Nat.le_add_left _ _) (show _ ≤ 191 by omega), bits, same]
  rw [if_neg two]
  by_cases three : value ≤ 65535
  · have bits : (value / 4096 % 16 * 64 + value / 64 % 64) * 64 + value % 64 = value := by omega
    rw [if_pos three, List.cons_append, List.cons_append, List.singleton_append,
      lossyChars_begin (begin?_three (by omega)) (by omega) (by omega),
      lossyChars_more (by omega) (by split <;> simp; omega) (by split <;> simp <;> omega),
      lossyChars_last (by omega) (Nat.le_add_left _ _) (show _ ≤ 191 by omega), bits, same]
  · have bits : ((value / 262144 % 8 * 64 + value / 4096 % 64) * 64 + value / 64 % 64) * 64 +
        value % 64 = value := by omega
    rw [if_neg three, List.cons_append, List.cons_append, List.cons_append, List.singleton_append,
      lossyChars_begin (begin?_four (by omega)) (by omega) (by omega),
      lossyChars_more (by omega) (by split <;> simp; omega) (by split <;> simp <;> omega),
      lossyChars_more (by omega) (Nat.le_add_left _ _) (show _ ≤ 191 by omega),
      lossyChars_last (by omega) (Nat.le_add_left _ _) (show _ ≤ 191 by omega), bits, same]

/-- Bytes that are a text are read as that text. -/
theorem lossy_utf8 (chars : List Char) : lossy (utf8 chars) = String.ofList chars := by
  have all (found : List Char) : lossyChars (utf8 chars) none found = found.reverse ++ chars := by
    induction chars generalizing found with
    | nil => exact (List.append_nil _).symm
    | cons first rest ih =>
        rw [utf8_cons, lossyChars_utf8EncodeChar, ih, List.reverse_cons, List.append_assoc]
        rfl
  rw [lossy, all]
  rfl

end QueryDriver.Text
