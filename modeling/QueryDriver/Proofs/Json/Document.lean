import QueryDriver.Json.Reader
import QueryDriver.Proofs.Json.Numeral
import QueryDriver.Proofs.Json.Quoted

/-!
Reading documents that have been written. The text of a value without doubles is read as the
document of that value, of whatever depth it is, and values with the same document are the same.
-/

namespace QueryDriver.Json

open Text

/-- There is no double in the value. -/
inductive Whole : Json → Prop
  | null : Whole .null
  | bool (value : Bool) : Whole (.bool value)
  | int (value : Int) : Whole (.int value)
  | string (value : String) : Whole (.string value)
  | array {items : List Json} (wholeItems : ∀ item ∈ items, Whole item) : Whole (.array items)
  | object {members : List (String × Json)} (wholeMembers : ∀ member ∈ members, Whole member.2) :
      Whole (.object members)

/-- What is read where a text has been written. -/
def textPieces (text : String) : List Quoted.Piece :=
  text.toList.flatMap Quoted.pieces

mutual

/-- What is read where a value has been written. A double stands for the numeral that its text
begins with. -/
def document : Json → Document
  | .null => .null
  | .bool value => .bool value
  | .int value => .number (.ofInt value)
  | .double value =>
      match Numeral.scan (utf8 (value.finiteText Double.documentStyle)) with
      | some (numeral, _) => .number numeral
      | none => .null
  | .string value => .string (textPieces value)
  | .array items => .array (itemDocuments items)
  | .object members => .object (memberDocuments members)

def itemDocuments : List Json → List Document
  | [] => []
  | item :: rest => document item :: itemDocuments rest

def memberDocuments : List (String × Json) → List (List Quoted.Piece × Document)
  | [] => []
  | (key, value) :: rest => (textPieces key, document value) :: memberDocuments rest

end

namespace Document

/-- What may stand behind a value: nothing, a comma or the end of a container. -/
def Closes (rest : List Char) : Prop :=
  ∀ next ∈ rest.head?, next = ',' ∨ next = ']' ∨ next = '\x7d'

theorem Closes.stops {rest : List Char} (closes : Closes rest) : Numeral.Stops (utf8 rest) := by
  cases rest with
  | nil => exact fun _ absent => absurd absent (Option.not_mem_none _)
  | cons next others =>
      intro byte isFirst
      rcases closes next rfl with rfl | rfl | rfl <;>
        obtain rfl := Option.some.inj isFirst <;> decide

theorem skipSpace_cons {byte : UInt8} (noSpace : isSpace byte = false) (rest : List UInt8) :
    skipSpace (byte :: rest) = byte :: rest := by
  rw [skipSpace, List.dropWhile_cons, noSpace]
  rfl

theorem utf8_chars (text : String) (rest : List Char) :
    utf8 (Quoted.chars text ++ rest) =
      Quoted.quote :: (utf8 (text.toList.flatMap Quoted.escape) ++ Quoted.quote :: utf8 rest) := by
  simp only [Quoted.chars, List.cons_append, utf8_cons, utf8_append, List.append_assoc]
  rfl

theorem scan_text (text : String) (rest : List UInt8) :
    Quoted.scan (utf8 (text.toList.flatMap Quoted.escape) ++ Quoted.quote :: rest) [] =
      some (textPieces text, rest) := by
  have scanned := Quoted.scan_chars text.toList rest []
  rwa [List.reverse_nil, List.nil_append] at scanned

theorem key_chars (name : String) (rest : List Char) :
    key (utf8 (Quoted.chars name ++ ':' :: rest)) = some (textPieces name, utf8 rest) := by
  have colon : utf8 (':' :: rest) = 0x3A :: utf8 rest := rfl
  rw [utf8_chars, colon, key, skipSpace_cons rfl]
  simp only [if_true, scan_text, skipSpace_cons (show isSpace 0x3A = false from rfl)]

/-- What is left to do when a value has been read. -/
def proceed (fuel : Nat) (outer : List Opened) (found : Document) : Scanner Document :=
  fun input =>
    match settle found outer input with
    | none => none
    | some (.inl found, rest) => some (found, rest)
    | some (.inr outer, rest) => inside fuel outer rest

theorem inside_found {input rest : List UInt8} {found : Document}
    (entered : enter input = some (.inl found, rest)) (fuel : Nat) (outer : List Opened) :
    inside (fuel + 1) outer input = proceed fuel outer found rest := by
  simp only [inside, entered]
  rfl

theorem inside_opened {input rest : List UInt8} {opened : Opened}
    (entered : enter input = some (.inr opened, rest)) (fuel : Nat) (outer : List Opened) :
    inside (fuel + 1) outer input = inside fuel (opened :: outer) rest := by
  simp only [inside, entered]

section Proceed

variable (fuel : Nat) (outer : List Opened) (found : Document) (rest : List Char)

theorem proceed_array_close (before : List Document) :
    proceed fuel (.array before :: outer) found (utf8 (']' :: rest)) =
      proceed fuel outer (.array (before.reverse ++ [found])) (utf8 rest) := by
  have close : utf8 (']' :: rest) = 0x5D :: utf8 rest := rfl
  rw [close, proceed, settle, skipSpace_cons rfl]
  simp only [if_true, List.reverse_cons]
  rfl

theorem proceed_array_comma (before : List Document) :
    proceed fuel (.array before :: outer) found (utf8 (',' :: rest)) =
      inside fuel (.array (found :: before) :: outer) (utf8 rest) := by
  have comma : utf8 (',' :: rest) = 0x2C :: utf8 rest := rfl
  rw [comma, proceed, settle, skipSpace_cons rfl]
  rfl

theorem proceed_object_close (before : List (Key × Document)) (name : Key) :
    proceed fuel (.object before name :: outer) found (utf8 ('\x7d' :: rest)) =
      proceed fuel outer (.object (before.reverse ++ [(name, found)])) (utf8 rest) := by
  have close : utf8 ('\x7d' :: rest) = 0x7D :: utf8 rest := rfl
  rw [close, proceed, settle, skipSpace_cons rfl]
  simp only [if_true, List.reverse_cons]
  rfl

theorem proceed_object_comma (before : List (Key × Document)) (name : Key) (next : String) :
    proceed fuel (.object before name :: outer) found
        (utf8 (',' :: (Quoted.chars next ++ ':' :: rest))) =
      inside fuel (.object ((name, found) :: before) (textPieces next) :: outer) (utf8 rest) := by
  have comma : utf8 (',' :: (Quoted.chars next ++ ':' :: rest)) =
      0x2C :: utf8 (Quoted.chars next ++ ':' :: rest) := rfl
  rw [comma, proceed, settle, skipSpace_cons rfl]
  simp only [key_chars]
  rfl

end Proceed

section Enter

variable (rest : List Char)

theorem enter_string (text : String) :
    enter (utf8 (Quoted.chars text ++ rest)) =
      some (.inl (.string (textPieces text)), utf8 rest) := by
  rw [utf8_chars, enter, skipSpace_cons rfl]
  simp only [scan_text]
  rfl

theorem exists_first_int (value : Int) :
    ∃ first more, utf8 (intChars value) = first :: more ∧ isSpace first = false ∧
      ∀ known, known ≠ 0x2D → Numeral.isDigit known = false → first ≠ known := by
  obtain ⟨first, more, front, sign⟩ := Numeral.exists_first value
  have other (known : UInt8) (noSign : known ≠ 0x2D) (noDigit : Numeral.isDigit known = false) :
      first ≠ known := by
    rintro rfl
    rcases sign with minus | digit
    · exact noSign minus
    · exact absurd digit (noDigit ▸ Bool.false_ne_true)
  refine ⟨first, more, front, ?_, other⟩
  simp [isSpace, other 0x20, other 0x0A, other 0x0D, other 0x09, Numeral.isDigit]

theorem enter_int (value : Int) (closes : Closes rest) :
    enter (utf8 (intChars value ++ rest)) = some (.inl (.number (.ofInt value)), utf8 rest) := by
  have scanned := Numeral.scan_intChars value closes.stops
  obtain ⟨first, more, front, noSpace, other⟩ := exists_first_int value
  rw [front, List.cons_append] at scanned
  rw [utf8_append, front, List.cons_append, enter, skipSpace_cons noSpace]
  simp only [other 0x5B (by decide) (by decide), other 0x7B (by decide) (by decide),
    other Quoted.quote (by decide) (by decide), other 0x6E (by decide) (by decide),
    other 0x74 (by decide) (by decide), other 0x66 (by decide) (by decide), if_false, scanned]
  rfl

theorem enter_array {text : List Char}
    (starts : ∃ first more, utf8 text = first :: more ∧ isSpace first = false ∧ first ≠ 0x5D) :
    enter (utf8 ('[' :: text)) = some (.inr (.array []), utf8 text) := by
  obtain ⟨first, more, front, noSpace, other⟩ := starts
  have opens : utf8 ('[' :: text) = 0x5B :: first :: more := congrArg (0x5B :: ·) front
  rw [opens, enter, skipSpace_cons rfl, front]
  simp only [if_true, skipSpace_cons noSpace, if_neg other]

theorem enter_object (name : String) :
    enter (utf8 ('\x7b' :: (Quoted.chars name ++ ':' :: rest))) =
      some (.inr (.object [] (textPieces name)), utf8 rest) := by
  have opens : utf8 ('\x7b' :: (Quoted.chars name ++ ':' :: rest)) =
      0x7B :: utf8 (Quoted.chars name ++ ':' :: rest) := rfl
  have named := key_chars name rest
  rw [utf8_chars] at named
  rw [opens, utf8_chars, enter, skipSpace_cons rfl]
  change Option.map _ (key (Quoted.quote :: _)) = _
  rw [named]
  rfl

end Enter

/-- A value's text is read up to its end, and then comes what is around it. No more rounds are
needed than the text has bytes. -/
def ReadsBack (value : Json) : Prop :=
  ∀ rest, Closes rest → ∃ rounds,
    rounds + (utf8 rest).length ≤ (utf8 (value.charsThen rest)).length ∧
      ∀ fuel outer, inside (rounds + fuel) outer (utf8 (value.charsThen rest)) =
        proceed fuel outer value.document (utf8 rest)

theorem closes_cons {next : Char} (closing : next = ',' ∨ next = ']' ∨ next = '\x7d')
    (rest : List Char) : Closes (next :: rest) := by
  intro first isFirst
  obtain rfl := Option.some.inj isFirst
  exact closing

theorem readsBack_of_enter {value : Json} (written : List Char) (nonempty : written ≠ [])
    (text : ∀ rest, value.charsThen rest = written ++ rest)
    (entered : ∀ rest, Closes rest →
      enter (utf8 (written ++ rest)) = some (.inl value.document, utf8 rest)) :
    ReadsBack value := by
  intro rest closes
  rw [text]
  refine ⟨1, ?_, fun fuel outer => ?_⟩
  · have some := List.length_pos_iff.mpr nonempty
    have bytes := length_utf8 written
    rw [utf8_append, List.length_append]
    omega
  · rw [Nat.add_comm]
    exact inside_found (entered rest closes) fuel outer

theorem inside_items {item : Json} {others : List Json}
    (each : ∀ part ∈ item :: others, ReadsBack part) (before : List Document) (rest : List Char) :
    ∃ rounds,
      rounds + (utf8 rest).length < (utf8 (itemsThen (item :: others) (']' :: rest))).length ∧
        ∀ fuel outer,
          inside (rounds + fuel) (.array before :: outer)
              (utf8 (itemsThen (item :: others) (']' :: rest))) =
            proceed fuel outer (.array (before.reverse ++ itemDocuments (item :: others)))
              (utf8 rest) := by
  induction others generalizing item before with
  | nil =>
      obtain ⟨rounds, bound, reads⟩ :=
        each item List.mem_cons_self (']' :: rest) (closes_cons (.inr (.inl rfl)) rest)
      refine ⟨rounds, ?_, fun fuel outer => ?_⟩
      · exact bound
      · rw [itemsThen, reads, proceed_array_close]
        rfl
  | cons next others ih =>
      obtain ⟨first, behind⟩ := List.forall_mem_cons.mp each
      obtain ⟨rounds, bound, reads⟩ := ih behind (item.document :: before)
      obtain ⟨roundsFirst, boundFirst, readsFirst⟩ :=
        first (',' :: itemsThen (next :: others) (']' :: rest)) (closes_cons (.inl rfl) _)
      have text : itemsThen (item :: next :: others) (']' :: rest) =
          item.charsThen (',' :: itemsThen (next :: others) (']' :: rest)) := rfl
      rw [text]
      refine ⟨roundsFirst + rounds, ?_, fun fuel outer => ?_⟩
      · rw [utf8_cons, List.length_append] at boundFirst
        omega
      · rw [Nat.add_assoc, readsFirst, proceed_array_comma, reads, List.reverse_cons,
          List.append_assoc]
        rfl

theorem inside_members {name : String} {value : Json} {others : List (String × Json)}
    (each : ∀ member ∈ (name, value) :: others, ReadsBack member.2)
    (before : List (Key × Document)) (rest : List Char) :
    ∃ text, membersThen ((name, value) :: others) ('\x7d' :: rest) =
        Quoted.chars name ++ ':' :: text ∧
      ∃ rounds, rounds + (utf8 rest).length < (utf8 text).length ∧
        ∀ fuel outer,
          inside (rounds + fuel) (.object before (textPieces name) :: outer) (utf8 text) =
            proceed fuel outer
              (.object (before.reverse ++ memberDocuments ((name, value) :: others)))
              (utf8 rest) := by
  induction others generalizing name value before with
  | nil =>
      obtain ⟨rounds, bound, reads⟩ :=
        each (name, value) List.mem_cons_self ('\x7d' :: rest) (closes_cons (.inr (.inr rfl)) rest)
      refine ⟨_, rfl, rounds, bound, fun fuel outer => ?_⟩
      rw [reads, proceed_object_close]
      rfl
  | cons next others ih =>
      obtain ⟨first, behind⟩ := List.forall_mem_cons.mp each
      obtain ⟨text, same, rounds, bound, reads⟩ :=
        ih behind ((textPieces name, value.document) :: before)
      obtain ⟨roundsFirst, boundFirst, readsFirst⟩ :=
        first (',' :: (Quoted.chars next.1 ++ ':' :: text)) (closes_cons (.inl rfl) _)
      have whole := congrArg
        (fun text => Quoted.chars name ++ ':' :: value.charsThen (',' :: text)) same
      refine ⟨_, whole, roundsFirst + rounds, ?_, fun fuel outer => ?_⟩
      · simp only [utf8_cons, utf8_append, List.length_append] at boundFirst
        omega
      · rw [Nat.add_assoc, readsFirst, proceed_object_comma, reads, List.reverse_cons,
          List.append_assoc]
        rfl

theorem exists_first_of_whole {value : Json} (whole : value.Whole) (rest : List Char) :
    ∃ first more, utf8 (value.charsThen rest) = first :: more ∧ isSpace first = false ∧
      first ≠ 0x5D := by
  cases whole with
  | null => exact ⟨0x6E, _, rfl, rfl, by decide⟩
  | bool value => cases value <;> exact ⟨_, _, rfl, rfl, by decide⟩
  | int value =>
      obtain ⟨first, more, front, noSpace, other⟩ := exists_first_int value
      refine ⟨first, more ++ utf8 rest, ?_, noSpace, other 0x5D (by decide) (by decide)⟩
      rw [charsThen, utf8_append, front, List.cons_append]
  | string value => exact ⟨Quoted.quote, _, utf8_chars value rest, rfl, by decide⟩
  | array _ => exact ⟨0x5B, _, rfl, rfl, by decide⟩
  | object _ => exact ⟨0x7B, _, rfl, rfl, by decide⟩

theorem readsBack_array {items : List Json} (wholeItems : ∀ item ∈ items, item.Whole)
    (each : ∀ item ∈ items, ReadsBack item) : ReadsBack (.array items) := by
  cases items with
  | nil => exact readsBack_of_enter ['[', ']'] nofun (fun _ => rfl) (fun _ _ => rfl)
  | cons item others =>
      intro rest closes
      obtain ⟨rounds, bound, reads⟩ := inside_items each [] rest
      have starts : ∃ first more, utf8 (itemsThen (item :: others) (']' :: rest)) = first :: more ∧
          isSpace first = false ∧ first ≠ 0x5D := by
        have whole := wholeItems item List.mem_cons_self
        cases others <;> exact exists_first_of_whole whole _
      refine ⟨rounds + 1, ?_, fun fuel outer => ?_⟩
      · rw [charsThen, utf8_cons, List.length_append]
        omega
      · rw [charsThen, Nat.add_right_comm, inside_opened (enter_array starts), reads]
        rfl

theorem readsBack_object {members : List (String × Json)}
    (each : ∀ member ∈ members, ReadsBack member.2) : ReadsBack (.object members) := by
  cases members with
  | nil =>
      exact readsBack_of_enter ['\x7b', '\x7d'] nofun (fun _ => rfl) (fun _ _ => rfl)
  | cons member others =>
      intro rest closes
      obtain ⟨text, same, rounds, bound, reads⟩ := inside_members each [] rest
      refine ⟨rounds + 1, ?_, fun fuel outer => ?_⟩
      · rw [charsThen, same]
        simp only [utf8_cons, utf8_append, List.length_append]
        omega
      · rw [charsThen, same, Nat.add_right_comm, inside_opened (enter_object _ _), reads]
        rfl

theorem readsBack_of_whole {value : Json} (whole : value.Whole) : ReadsBack value := by
  induction whole with
  | null =>
      exact readsBack_of_enter ['n', 'u', 'l', 'l'] nofun (fun _ => rfl) (fun _ _ => rfl)
  | bool value =>
      cases value with
      | true =>
          exact readsBack_of_enter ['t', 'r', 'u', 'e'] nofun (fun _ => rfl)
            (fun _ _ => rfl)
      | false =>
          exact readsBack_of_enter ['f', 'a', 'l', 's', 'e'] nofun (fun _ => rfl)
            (fun _ _ => rfl)
  | int value =>
      refine readsBack_of_enter (intChars value) ?_ (fun _ => rfl)
        (fun rest closes => enter_int rest value closes)
      rw [intChars]
      split
      · exact List.cons_ne_nil _ _
      · exact Nat.toDigits_ne_nil
  | string value =>
      exact readsBack_of_enter (Quoted.chars value) (List.cons_ne_nil _ _) (fun _ => rfl)
        (fun rest _ => enter_string rest value)
  | array wholeItems each => exact readsBack_array wholeItems each
  | object _ each => exact readsBack_object each

/-- The text of a value without doubles is read as its document, however deep it is. -/
theorem read?_of_whole {value : Json} (whole : value.Whole) :
    read? value.bytes.data.toList = some value.document := by
  have bytes : value.bytes.data.toList = utf8 (value.charsThen []) := bytes_ofList value.chars
  obtain ⟨rounds, bound, reads⟩ := readsBack_of_whole whole [] nofun
  obtain ⟨fuel, enough⟩ := Nat.exists_eq_add_of_le bound
  rw [utf8_nil, List.length_nil, Nat.add_zero] at enough
  rw [bytes, Document.read?, Document.value, enough, reads]
  rfl

end Document

theorem textPieces_injective {first second : String} (same : textPieces first = textPieces second) :
    first = second := by
  have read := Quoted.text?_pieces first
  rw [← textPieces, same, textPieces, Quoted.text?_pieces] at read
  exact (Option.some.inj read).symm

theorem itemDocuments_injective {items : List Json}
    (each : ∀ item ∈ items, ∀ other : Json, other.Whole → item.document = other.document →
      item = other)
    {others : List Json} (whole : ∀ other ∈ others, other.Whole)
    (same : itemDocuments items = itemDocuments others) : items = others := by
  induction items generalizing others with
  | nil =>
      cases others with
      | nil => rfl
      | cons _ _ => cases same
  | cons item rest ih =>
      cases others with
      | nil => cases same
      | cons other others =>
          obtain ⟨wholeOther, wholeOthers⟩ := List.forall_mem_cons.mp whole
          obtain ⟨sameFirst, sameRest⟩ := List.cons_eq_cons.mp same
          rw [each item List.mem_cons_self other wholeOther sameFirst,
            ih (fun part member => each part (.tail item member)) wholeOthers sameRest]

theorem memberDocuments_injective {members : List (String × Json)}
    (each : ∀ member ∈ members, ∀ other : Json, other.Whole →
      member.2.document = other.document → member.2 = other)
    {others : List (String × Json)} (whole : ∀ other ∈ others, other.2.Whole)
    (same : memberDocuments members = memberDocuments others) : members = others := by
  induction members generalizing others with
  | nil =>
      cases others with
      | nil => rfl
      | cons _ _ => cases same
  | cons member rest ih =>
      cases others with
      | nil => cases same
      | cons other others =>
          obtain ⟨wholeOther, wholeOthers⟩ := List.forall_mem_cons.mp whole
          obtain ⟨sameFirst, sameRest⟩ := List.cons_eq_cons.mp same
          obtain ⟨sameKey, sameValue⟩ := Prod.mk.inj sameFirst
          rw [Prod.ext (textPieces_injective sameKey)
              (each member List.mem_cons_self other.2 wholeOther sameValue),
            ih (fun part isMember => each part (.tail member isMember)) wholeOthers sameRest]

theorem document_injective {value : Json} (whole : value.Whole) {other : Json}
    (wholeOther : other.Whole) (same : value.document = other.document) : value = other := by
  induction whole generalizing other with
  | int value =>
      cases wholeOther <;> simp only [document, reduceCtorEq, Document.number.injEq] at same
      rw [Numeral.ofInt_injective same]
  | string value =>
      cases wholeOther <;> simp only [document, reduceCtorEq, Document.string.injEq] at same
      rw [textPieces_injective same]
  | array _ each =>
      cases wholeOther <;> simp only [document, reduceCtorEq, Document.array.injEq] at same
      rename_i wholeItems
      rw [itemDocuments_injective each wholeItems same]
  | object _ each =>
      cases wholeOther <;> simp only [document, reduceCtorEq, Document.object.injEq] at same
      rename_i wholeMembers
      rw [memberDocuments_injective each wholeMembers same]
  | null => cases wholeOther <;> simp [document] at same ⊢
  | bool value =>
      cases wholeOther <;> simp [document] at same ⊢
      exact same

/-- No two values without doubles have the same text. -/
theorem bytes_injective {first second : Json} (wholeFirst : first.Whole)
    (wholeSecond : second.Whole) (same : first.bytes = second.bytes) : first = second := by
  have read := Document.read?_of_whole wholeFirst
  rw [same, Document.read?_of_whole wholeSecond] at read
  exact document_injective wholeFirst wholeSecond (Option.some.inj read).symm

end QueryDriver.Json
