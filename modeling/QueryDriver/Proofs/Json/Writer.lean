import QueryDriver.Json.Writer
import QueryDriver.Proofs.Json.Document

/-!
What is written for a value without doubles holds no control characters, so that a control may stand
between two texts: no byte of a text is below `0x20`.
-/

namespace QueryDriver.Json

open Text

def Uncontrolled (chars : List Char) : Prop :=
  ∀ character ∈ chars, 0x20 ≤ character.toNat

theorem Uncontrolled.append {first second : List Char} (before : Uncontrolled first)
    (behind : Uncontrolled second) : Uncontrolled (first ++ second) :=
  List.forall_mem_append.mpr ⟨before, behind⟩

theorem Uncontrolled.cons {first : Char} {rest : List Char} (behind : Uncontrolled rest)
    (plain : 0x20 ≤ first.toNat := by decide) : Uncontrolled (first :: rest) :=
  List.forall_mem_cons.mpr ⟨plain, behind⟩

theorem Uncontrolled.utf8 {chars : List Char} (plain : Uncontrolled chars) :
    ∀ byte ∈ Text.utf8 chars, 0x20 ≤ byte.toNat := by
  intro byte member
  obtain ⟨character, isMember, inside⟩ := List.mem_flatMap.mp member
  have bound := plain character isMember
  by_cases small : character.toNat < 0x80
  · rw [utf8EncodeChar_plain small, List.mem_singleton] at inside
    rw [inside, UInt8.toNat_ofNat']
    omega
  · have large : 0x80 ≤ byte.toNat := UInt8.le_iff_toNat_le.mp
      (large_of_mem_utf8EncodeChar (Nat.le_of_not_lt small) inside)
    omega

namespace Quoted

theorem uncontrolled_escape_control : ∀ code < 0x20,
    (escape (Char.ofNat code)).all (fun character => 0x20 ≤ character.toNat) = true := by
  decide

theorem uncontrolled_escape (character : Char) : Uncontrolled (escape character) := by
  by_cases control : character.toNat < 0x20
  · have escaped := uncontrolled_escape_control character.toNat control
    rw [Char.ofNat_toNat, List.all_eq_true] at escaped
    exact fun part member => of_decide_eq_true (escaped part member)
  · by_cases special : character = '"' ∨ character = '\\'
    · have letters : Uncontrolled ['\\', character] :=
        .cons (.cons (List.forall_mem_nil _) (Nat.le_of_not_lt control))
      rcases special with rfl | rfl <;> exact letters
    · rw [not_or] at special
      rw [escape_itself special.1 special.2 control]
      exact .cons (List.forall_mem_nil _) (Nat.le_of_not_lt control)

theorem uncontrolled_chars (text : String) : Uncontrolled (chars text) := by
  have escaped : Uncontrolled (text.toList.flatMap escape) := by
    intro character member
    obtain ⟨original, _, inside⟩ := List.mem_flatMap.mp member
    exact uncontrolled_escape original character inside
  exact (escaped.append (.cons (List.forall_mem_nil _))).cons

end Quoted

theorem uncontrolled_intChars (value : Int) : Uncontrolled (intChars value) := by
  have digits : Uncontrolled (Nat.toDigits 10 value.natAbs) := by
    intro digit member
    have range := Numeral.range_of_mem_toDigits member
    omega
  rw [intChars]
  split
  · exact digits.cons
  · exact digits

theorem uncontrolled_itemsThen {items : List Json}
    (each : ∀ item ∈ items, ∀ rest, Uncontrolled rest → Uncontrolled (item.charsThen rest))
    {rest : List Char} (plain : Uncontrolled rest) : Uncontrolled (itemsThen items rest) := by
  induction items with
  | nil => exact plain
  | cons item others ih =>
      obtain ⟨first, behind⟩ := List.forall_mem_cons.mp each
      cases others with
      | nil => exact first rest plain
      | cons next others => exact first _ (ih behind).cons

theorem uncontrolled_membersThen {members : List (String × Json)}
    (each : ∀ member ∈ members, ∀ rest, Uncontrolled rest → Uncontrolled (member.2.charsThen rest))
    {rest : List Char} (plain : Uncontrolled rest) : Uncontrolled (membersThen members rest) := by
  induction members with
  | nil => exact plain
  | cons member others ih =>
      obtain ⟨first, behind⟩ := List.forall_mem_cons.mp each
      have named {text : List Char} (plain : Uncontrolled text) :
          Uncontrolled (Quoted.chars member.1 ++ ':' :: text) :=
        (Quoted.uncontrolled_chars member.1).append plain.cons
      cases others with
      | nil => exact named (first rest plain)
      | cons next others => exact named (first _ (ih behind).cons)

theorem uncontrolled_charsThen {value : Json} (whole : value.Whole) {rest : List Char}
    (plain : Uncontrolled rest) : Uncontrolled (value.charsThen rest) := by
  induction whole generalizing rest with
  | null => exact plain.cons.cons.cons.cons
  | bool value =>
      cases value with
      | true => exact plain.cons.cons.cons.cons
      | false => exact plain.cons.cons.cons.cons.cons
  | int value => exact (uncontrolled_intChars value).append plain
  | string value => exact (Quoted.uncontrolled_chars value).append plain
  | array _ each =>
      exact (uncontrolled_itemsThen (fun item member _ => each item member) plain.cons).cons
  | object _ each =>
      refine (uncontrolled_membersThen ?_ plain.cons).cons
      exact fun member isMember _ => each member isMember

theorem chars_field (key text : String) :
    Json.chars (.object [(key, .string text)]) =
      '\x7b' :: Quoted.chars key ++ ':' :: Quoted.chars text ++ ['\x7d'] := by
  rw [Json.chars, charsThen, membersThen, charsThen]
  simp

theorem bytes_eq (value : Json) : value.bytes.data.toList = utf8 value.chars :=
  bytes_ofList value.chars

theorem uncontrolled_bytes {value : Json} (whole : value.Whole) :
    ∀ byte ∈ value.bytes.data.toList, 0x20 ≤ byte.toNat := by
  rw [bytes_eq]
  exact (uncontrolled_charsThen whole (List.forall_mem_nil _)).utf8

end QueryDriver.Json
