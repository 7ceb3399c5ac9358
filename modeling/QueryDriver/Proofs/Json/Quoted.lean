import QueryDriver.Json.Quoted
import QueryDriver.Proofs.Text

/-!
Reading quoted strings that have been written. Every character is read back from what is written for
it, whether its bytes stand there or an escape.
-/

namespace QueryDriver.Json.Quoted

open Text

/-- Whether a character is written with a `\u` escape: a control that has none of one letter. -/
def needsUnit (character : Char) : Bool :=
  character.toNat < 0x20 ∧ character ∉ ['\n', '\r', '\t', '\x08', '\x0C']

/-- What is read where a character has been written. -/
def pieces (character : Char) : List Piece :=
  if needsUnit character then [.unit character.toNat]
  else (String.utf8EncodeChar character).map .byte

theorem scan_short {letter byte : UInt8} (short : shortEscape? letter = some byte)
    (noUnit : letter ≠ 0x75) (rest : List UInt8) (found : List Piece) :
    scan (backslash :: letter :: rest) found = scan rest (.byte byte :: found) := by
  have noQuote : backslash ≠ quote := by decide
  rw [scan.eq_def]
  simp only [if_neg noQuote, if_true, if_neg noUnit, short]

theorem scan_unit {a b c d : UInt8} {code : Nat} (unit : codeUnit? a b c d = some code)
    (rest : List UInt8) (found : List Piece) :
    scan (backslash :: 0x75 :: a :: b :: c :: d :: rest) found =
      scan rest (.unit code :: found) := by
  have noQuote : backslash ≠ quote := by decide
  rw [scan.eq_def]
  simp only [if_neg noQuote, if_true, unit]

theorem scan_plain {bytes : List UInt8}
    (plain : ∀ byte ∈ bytes, byte ≠ quote ∧ byte ≠ backslash ∧ ¬byte < 0x20)
    (rest : List UInt8) (found : List Piece) :
    scan (bytes ++ rest) found = scan rest ((bytes.map .byte).reverse ++ found) := by
  induction bytes generalizing found with
  | nil => rfl
  | cons byte others ih =>
      obtain ⟨⟨noQuote, noBackslash, noControl⟩, plain⟩ := List.forall_mem_cons.mp plain
      rw [List.cons_append, scan.eq_def]
      simp only [if_neg noQuote, if_neg noBackslash, if_neg noControl]
      rw [ih plain, List.map_cons, List.reverse_cons, List.append_assoc, List.singleton_append]

theorem plain_of_mem_utf8EncodeChar {character : Char} (noQuote : character ≠ '"')
    (noBackslash : character ≠ '\\') (noControl : ¬character.toNat < 0x20) {byte : UInt8}
    (member : byte ∈ String.utf8EncodeChar character) :
    byte ≠ quote ∧ byte ≠ backslash ∧ ¬byte < 0x20 := by
  rw [UInt8.lt_iff_toNat_lt]
  by_cases small : character.toNat < 0x80
  · rw [utf8EncodeChar_plain small, List.mem_singleton] at member
    have value : byte.toNat = character.toNat := by
      rw [member, UInt8.toNat_ofNat']
      omega
    rw [value]
    refine ⟨?_, ?_, noControl⟩
    · rintro rfl
      exact noQuote (Char.toNat_inj.mp value.symm)
    · rintro rfl
      exact noBackslash (Char.toNat_inj.mp value.symm)
  · have large : 0x80 ≤ byte.toNat := UInt8.le_iff_toNat_le.mp
      (large_of_mem_utf8EncodeChar (Nat.le_of_not_lt small) member)
    refine ⟨?_, ?_, fun control => ?_⟩
    · rintro rfl
      exact absurd large (by decide)
    · rintro rfl
      exact absurd large (by decide)
    · have low : byte.toNat < 0x20 := control
      omega

theorem codeUnit?_control : ∀ code < 0x20,
    codeUnit? 0x30 0x30 (UInt8.ofNat (Nat.digitChar (code / 16)).toNat)
      (UInt8.ofNat (Nat.digitChar (code % 16)).toNat) = some code := by
  decide

theorem utf8_escape_control : ∀ code < 0x20, needsUnit (Char.ofNat code) = true →
    utf8 (escape (Char.ofNat code)) =
      [backslash, 0x75, 0x30, 0x30, UInt8.ofNat (Nat.digitChar (code / 16)).toNat,
        UInt8.ofNat (Nat.digitChar (code % 16)).toNat] := by
  decide

theorem escape_itself {character : Char} (noQuote : character ≠ '"')
    (noBackslash : character ≠ '\\') (noControl : ¬character.toNat < 0x20) :
    escape character = [character] := by
  have other (control : Char) (low : control.toNat < 0x20) : character ≠ control := by
    rintro rfl
    exact noControl low
  simp only [escape, noQuote, noBackslash, other '\n' (by decide), other '\r' (by decide),
    other '\t' (by decide), other '\x08' (by decide), other '\x0C' (by decide), noControl, if_false]

theorem scan_escape (character : Char) (rest : List UInt8) (found : List Piece) :
    scan (utf8 (escape character) ++ rest) found =
      scan rest ((pieces character).reverse ++ found) := by
  by_cases unit : needsUnit character = true
  · have control : character.toNat < 0x20 := (of_decide_eq_true unit).1
    have escaped := utf8_escape_control character.toNat control
    rw [Char.ofNat_toNat] at escaped
    rw [escaped unit, pieces, if_pos unit]
    exact scan_unit (codeUnit?_control _ control) rest found
  · by_cases short : character ∈ ['"', '\\', '\n', '\r', '\t', '\x08', '\x0C']
    · simp only [List.mem_cons, List.not_mem_nil, or_false] at short
      rcases short with rfl | rfl | rfl | rfl | rfl | rfl | rfl <;>
        exact scan_short rfl (by decide) rest found
    · simp only [List.mem_cons, List.not_mem_nil, or_false, not_or] at short
      have noControl : ¬character.toNat < 0x20 := by
        intro control
        exact unit (decide_eq_true ⟨control, by simp [short]⟩)
      have itself := escape_itself short.1 short.2.1 noControl
      rw [itself, pieces, if_neg unit, utf8_cons, utf8_nil, List.append_nil]
      exact scan_plain
        (fun byte => plain_of_mem_utf8EncodeChar short.1 short.2.1 noControl) rest found

theorem scan_chars (characters : List Char) (rest : List UInt8) (found : List Piece) :
    scan (utf8 (characters.flatMap escape) ++ quote :: rest) found =
      some (found.reverse ++ characters.flatMap pieces, rest) := by
  induction characters generalizing found with
  | nil =>
      rw [List.flatMap_nil, List.flatMap_nil, List.append_nil, utf8_nil, List.nil_append,
        scan.eq_def]
      simp only [if_true]
  | cons first others ih =>
      rw [List.flatMap_cons, utf8_append, List.append_assoc, scan_escape, ih]
      simp

theorem bytes?_map_byte (bytes : List UInt8) (others : List Piece) (found : List UInt8) :
    bytes? (bytes.map .byte ++ others) found = bytes? others (bytes.reverse ++ found) := by
  induction bytes generalizing found with
  | nil => rfl
  | cons byte rest ih =>
      rw [List.map_cons, List.cons_append, bytes?, ih]
      simp

theorem bytes?_pieces (character : Char) (others : List Piece) (found : List UInt8) :
    bytes? (pieces character ++ others) found =
      bytes? others ((String.utf8EncodeChar character).reverse ++ found) := by
  rw [pieces]
  by_cases unit : needsUnit character = true
  · have control : character.toNat < 0x20 := (of_decide_eq_true unit).1
    have noHigh : isHighSurrogate character.toNat = false := decide_eq_false (by omega)
    have noLow : isLowSurrogate character.toNat = false := decide_eq_false (by omega)
    rw [if_pos unit, List.singleton_append, bytes?.eq_def]
    simp only [noHigh, noLow, Char.ofNat_toNat, Bool.false_eq_true, if_false]
  · rw [if_neg unit]
    exact bytes?_map_byte _ others found

theorem bytes?_flatMap_pieces (characters : List Char) (found : List UInt8) :
    bytes? (characters.flatMap pieces) found = some (found.reverse ++ utf8 characters) := by
  induction characters generalizing found with
  | nil => rw [List.flatMap_nil, bytes?, utf8_nil, List.append_nil]
  | cons first others ih =>
      rw [List.flatMap_cons, bytes?_pieces, ih, utf8_cons]
      simp

theorem text?_pieces (text : String) : text? (text.toList.flatMap pieces) = some text := by
  rw [text?, bytes?_flatMap_pieces, List.reverse_nil, List.nil_append]
  exact fromUTF8?_utf8 text

end QueryDriver.Json.Quoted
