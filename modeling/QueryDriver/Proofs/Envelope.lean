import QueryDriver.Proofs.Response
import QueryDriver.Proofs.Text

/-!
What a response stands for. Its envelope is what the fields of a message say, and from the envelope
alone follows what a caller is given: the values, or an error with all that the envelope says of it.
-/

namespace QueryDriver

/-- The text of a value where a text is wanted: a string as it is, all else as it is written. -/
def Json.plainText : Json → String
  | .string text => text
  | value => value.compact

/-- The type code of a response that says at which stage a query has failed. -/
def QueryStage.code : QueryStage → Int64
  | .client => 16
  | .compile => 17
  | .runtime => 18

namespace Json.Record

/-- A field that may be missing or null is so, or it has a value. -/
def Gives (record : Record) (name : String) : Option Json → Prop
  | none => record.field name = none ∨ record.field name = some .null
  | some value => value ≠ .null ∧ record.field name = some value

theorem optional?_eq_some_iff {α : Type} {convert : Json → Option α} {json : α → Json}
    (converts : ∀ value content, convert value = some content ↔ value = json content)
    {record : Record} {name : String} {content : Option α} :
    record.optional? convert name = some content ↔ record.Gives name (content.map json) := by
  cases content with
  | none =>
      rw [optional?, Option.map_none, Gives]
      split <;> simp_all
  | some content =>
      rw [Option.map_some, Gives]
      constructor
      · intro read
        obtain ⟨value, given, noNull, converted⟩ := field_of_optional? read
        obtain rfl := (converts _ _).mp converted
        exact ⟨noNull, given⟩
      · rintro ⟨noNull, given⟩
        have named : record.field name = (some content).map json := given
        refine optional?_of_field named fun other same => ?_
        obtain rfl := Option.some.inj same
        exact ⟨noNull, (converts _ _).mpr rfl⟩

theorem optional?_some_iff {record : Record} {name : String} {content : Option Json} :
    record.optional? some name = some content ↔ record.Gives name content := by
  have same : record.optional? some name = some content ↔ record.Gives name (content.map id) :=
    optional?_eq_some_iff fun _ _ => Option.some_inj
  rwa [Option.map_id] at same

theorem withDefault?_eq_some_iff {α : Type} {convert : Json → Option α} {json : α → Json}
    (converts : ∀ value content, convert value = some content ↔ value = json content)
    {record : Record} {name : String} {default content : α} :
    record.withDefault? convert default name = some content ↔
      record.field name = none ∧ content = default ∨ record.field name = some (json content) := by
  rw [withDefault?]
  cases record.field name with
  | none => simp [eq_comm]
  | some value => simp [converts]

end Json.Record

namespace Response

open Json.Record

theorem int64?_eq_some_iff (value : Json) (code : Int64) :
    int64? value = some code ↔ value = int64Json code := by
  constructor
  · intro read
    cases value with
    | int number =>
        rw [int64?] at read
        split at read
        · rename_i bounds
          obtain rfl := Option.some.inj read
          have below : number < 2 ^ 63 := Int.lt_add_one_of_le bounds.2
          rw [int64Json, Int64.toInt_ofInt_of_le bounds.1 below]
        · cases read
    | _ => cases read
  · rintro rfl
    exact int64?_toInt code

theorem int64s?_eq_some_iff (value : Json) (codes : List Int64) :
    int64s? value = some codes ↔ value = .array (codes.map int64Json) := by
  constructor
  · intro read
    obtain ⟨items, isArray, each⟩ := Option.bind_eq_some_iff.mp read
    rw [items?_eq_some_iff.mp isArray]
    congr 1
    clear read isArray
    induction items generalizing codes with
    | nil =>
        obtain rfl : [] = codes := Option.some.inj each
        rfl
    | cons item rest ih =>
        rw [List.mapM_cons] at each
        obtain ⟨code, first, others⟩ := Option.bind_eq_some_iff.mp each
        obtain ⟨behind, later, same⟩ := Option.bind_eq_some_iff.mp others
        obtain rfl := Option.some.inj same
        rw [(int64?_eq_some_iff item code).mp first, ih behind later, List.map_cons]
  · rintro rfl
    exact int64s?_map codes

/-- What the fields of a message say of a response. -/
structure Envelope (record : Json.Record) (response : Response) : Prop where
  typeCode : record.field "t" = some (int64Json response.typeCode)
  results : record.Gives "r" (response.results.map .array)
  backtrace : record.Gives "b" response.backtrace
  noteCodes : record.field "n" = none ∧ response.noteCodes = [] ∨
    record.field "n" = some (.array (response.noteCodes.map int64Json))
  errorCode : record.Gives "e" (response.errorCode.map int64Json)
  profile : record.Gives "p" response.profile

theorem ofRecord?_eq_some_iff {record : Json.Record} {response : Response} :
    ofRecord? record = some response ↔ Envelope record response := by
  have items (value : Json) (values : List Json) :
      items? value = some values ↔ value = .array values := items?_eq_some_iff
  simp only [ofRecord?, Option.bind_eq_bind, Option.bind_eq_some_iff, int64?_eq_some_iff,
    optional?_eq_some_iff items, optional?_some_iff, optional?_eq_some_iff int64?_eq_some_iff,
    withDefault?_eq_some_iff int64s?_eq_some_iff]
  constructor
  · rintro ⟨_, typeCode, _, rfl, _, results, _, backtrace, _, noteCodes, _, errorCode, _, profile,
      same⟩
    obtain rfl := Option.some.inj same
    exact ⟨typeCode, results, backtrace, noteCodes, errorCode, profile⟩
  · rintro ⟨typeCode, results, backtrace, noteCodes, errorCode, profile⟩
    exact ⟨_, typeCode, _, rfl, _, results, _, backtrace, _, noteCodes, _, errorCode, _, profile, rfl⟩

/-- Bytes that are read as the fields of a message, which say what the response is. -/
def Reads (payload : ByteArray) (response : Response) : Prop :=
  ∃ record, Json.Record.read? fieldNames payload.data.toList = some record ∧
    Envelope record response

theorem parse_eq_ok_iff {payload : ByteArray} {response : Response} :
    parse payload = .ok response ↔ Reads payload response := by
  have fields : Reads payload response ↔
      (Json.Record.read? fieldNames payload.data.toList).bind ofRecord? = some response := by
    simp only [Reads, Option.bind_eq_some_iff, ofRecord?_eq_some_iff]
  rw [fields, parse]
  split
  · rename_i same
    rw [same, Option.some_inj]
    exact ⟨Except.ok.inj, congrArg Except.ok⟩
  · rename_i nothing
    simp [nothing]

theorem parse_of_unreadable {payload : ByteArray} (unread : ∀ response, ¬Reads payload response) :
    parse payload = .error (.decode payload.size (Text.lossy payload.data.toList)) := by
  rw [parse]
  split
  · rename_i response read
    obtain ⟨record, given, made⟩ := Option.bind_eq_some_iff.mp read
    exact absurd ⟨record, given, ofRecord?_eq_some_iff.mp made⟩ (unread response)
  · rfl

theorem ofCode?_eq_some_iff {code : Int64} {type : ResponseType} :
    ResponseType.ofCode? code = some type ↔ type.code = code := by
  constructor
  · intro found
    rw [ResponseType.ofCode?] at found
    simpa using List.find?_some found
  · rintro rfl
    cases type <;> rfl

section Values

variable {response : Response}

theorem type?_of_code {type : ResponseType} (code : response.typeCode = type.code) :
    response.type? = some type :=
  ofCode?_eq_some_iff.mpr code.symm

theorem values_of_success (success : response.typeCode = 1 ∨ response.typeCode = 2) :
    response.values =
      response.results.elim (.error (.invalidMessage .missingResult)) Except.ok := by
  rcases success with code | code
  · have type : response.type? = some .successAtom := type?_of_code code
    rw [values, type]
    cases response.results <;> rfl
  · have type : response.type? = some .successSequence := type?_of_code code
    rw [values, type]
    cases response.results <;> rfl

theorem errorText_eq : response.errorText = (response.results.bind List.head?).map Json.plainText := by
  rw [errorText]
  cases response.results with
  | none => rfl
  | some values =>
      cases values with
      | nil => rfl
      | cons first rest => cases first <;> rfl

theorem values_of_failure {stage : QueryStage} (failure : response.typeCode = stage.code) :
    response.values = .error (.query {
      stage
      text := (response.results.bind List.head?).map Json.plainText
      backtrace := response.backtrace
      errorType := response.errorCode }) := by
  rw [← errorText_eq, values]
  cases stage with
  | client =>
      have type : response.type? = some .clientError := type?_of_code failure
      rw [type]
      rfl
  | compile =>
      have type : response.type? = some .compileError := type?_of_code failure
      rw [type]
      rfl
  | runtime =>
      have type : response.type? = some .runtimeError := type?_of_code failure
      rw [type]
      rfl

theorem values_of_other (success : response.typeCode ≠ 1 ∧ response.typeCode ≠ 2)
    (failure : ∀ stage : QueryStage, response.typeCode ≠ stage.code) :
    response.values = .error (.unsupportedResponseType response.typeCode) := by
  rw [values]
  cases known : response.type? with
  | none => rfl
  | some type =>
      have code := ofCode?_eq_some_iff.mp known
      cases type with
      | successAtom => exact absurd code.symm success.1
      | successSequence => exact absurd code.symm success.2
      | clientError => exact absurd code.symm (failure .client)
      | compileError => exact absurd code.symm (failure .compile)
      | runtimeError => exact absurd code.symm (failure .runtime)
      | _ => rfl

theorem values_eq_ok_iff {values : List Json} :
    response.values = .ok values ↔
      (response.typeCode = 1 ∨ response.typeCode = 2) ∧ response.results = some values := by
  constructor
  · intro given
    by_cases success : response.typeCode = 1 ∨ response.typeCode = 2
    · refine ⟨success, ?_⟩
      rw [values_of_success success] at given
      cases found : response.results with
      | none =>
          rw [found] at given
          cases given
      | some values =>
          rw [found] at given
          exact congrArg some (Except.ok.inj given)
    · by_cases failure : ∃ stage : QueryStage, response.typeCode = stage.code
      · obtain ⟨stage, code⟩ := failure
        rw [values_of_failure code] at given
        cases given
      · rw [values_of_other (not_or.mp success) (not_exists.mp failure)] at given
        cases given
  · rintro ⟨success, found⟩
    rw [values_of_success success, found]
    rfl

end Values

/-- What a caller is given follows from the envelope: the values of a success as they are, an error
with all that is said of it, or a refusal; and what is no envelope is given back as text. -/
theorem decode_accounts_for_envelope (payload : ByteArray) :
    (∀ values, decode payload = .ok values ↔ ∃ response, Reads payload response ∧
      (response.typeCode = 1 ∨ response.typeCode = 2) ∧ response.results = some values) ∧
    (∀ response, Reads payload response →
      (response.typeCode = 1 ∨ response.typeCode = 2 → response.results = none →
        decode payload = .error (.invalidMessage .missingResult)) ∧
      (∀ stage : QueryStage, response.typeCode = stage.code →
        decode payload = .error (.query {
          stage
          text := (response.results.bind List.head?).map Json.plainText
          backtrace := response.backtrace
          errorType := response.errorCode })) ∧
      (response.typeCode ≠ 1 ∧ response.typeCode ≠ 2 →
        (∀ stage : QueryStage, response.typeCode ≠ stage.code) →
          decode payload = .error (.unsupportedResponseType response.typeCode))) ∧
    ((∀ response, ¬Reads payload response) →
      decode payload = .error (.decode payload.size (Text.lossy payload.data.toList))) ∧
    ∀ text : String, payload = text.toUTF8 → Text.lossy payload.data.toList = text := by
  have decoded {response : Response} (read : Reads payload response) :
      decode payload = response.values := by
    rw [decode, parse_eq_ok_iff.mpr read]
    rfl
  refine ⟨?_, ?_, ?_, ?_⟩
  · intro values
    constructor
    · intro given
      by_cases unread : ∀ response, ¬Reads payload response
      · rw [decode, parse_of_unreadable unread] at given
        cases given
      · obtain ⟨response, read⟩ := not_forall_not.mp unread
        rw [decoded read] at given
        exact ⟨response, read, values_eq_ok_iff.mp given⟩
    · rintro ⟨response, read, success⟩
      rw [decoded read]
      exact values_eq_ok_iff.mpr success
  · intro response read
    rw [decoded read]
    refine ⟨?_, fun stage => values_of_failure, values_of_other⟩
    intro success missing
    rw [values_of_success success, missing]
    rfl
  · intro unread
    rw [decode, parse_of_unreadable unread]
    rfl
  · rintro text rfl
    have chars := Text.bytes_ofList text.toList
    rw [String.ofList_toList, Text.bytes] at chars
    rw [chars, Text.lossy_utf8, String.ofList_toList]

/-- An error whose first value is no text, a type that no query has, and a text that is cut off. -/
theorem decode_accounts_for_envelope_astray :
    let failed := "\x7b\"r\":[[1,null],2],\"t\":18,\"e\":-7,\"b\":null\x7d".toUTF8
    let partly := "\x7b\"t\":3,\"r\":[1]\x7d".toUTF8
    let cut := "\x7b\"t\":1,\"r\":[1]".toUTF8
    decode failed = .error (.query ⟨.runtime, some "[1,null]", none, some (-7)⟩) ∧
      decode partly = .error (.unsupportedResponseType 3) ∧
      decode cut = .error (.decode 14 "\x7b\"t\":1,\"r\":[1]") := by
  intro failed partly cut
  refine ⟨?_, ?_, ?_⟩
  · have reads : Reads failed (Response.mk 18 (some [.array [.int 1, .null], .int 2]) none []
        (some (-7)) none) := parse_eq_ok_iff.mp rfl
    exact ((decode_accounts_for_envelope failed).2.1 _ reads).2.1 .runtime rfl
  · have reads : Reads partly (Response.mk 3 (some [.int 1]) none [] none none) :=
      parse_eq_ok_iff.mp rfl
    refine ((decode_accounts_for_envelope partly).2.1 _ reads).2.2 (by decide) fun stage => ?_
    cases stage <;> decide
  · have refused : parse cut = .error (.decode 14 "\x7b\"t\":1,\"r\":[1]") := rfl
    have unread (response : Response) : ¬Reads cut response := by
      rw [← parse_eq_ok_iff, refused]
      exact fun same => nomatch same
    obtain ⟨_, _, lost, text⟩ := decode_accounts_for_envelope cut
    rw [lost unread, text _ rfl]
    rfl

end Response

end QueryDriver
