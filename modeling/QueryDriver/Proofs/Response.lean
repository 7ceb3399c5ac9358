import QueryDriver.Proofs.Json.Record
import QueryDriver.Response

/-!
Responses and their texts. A response without doubles is read back from its text, and reading a text
without doubles gives such a response, in whatever form the text has the fields.
-/

namespace QueryDriver.Response

open Json.Record

/-- What a response carries is of some kind, and it is left out where it would be null. -/
structure Carries (kind : Json → Prop) (response : Response) : Prop where
  results : ∀ values ∈ response.results, kind (.array values)
  backtrace : ∀ value ∈ response.backtrace, kind value ∧ value ≠ .null
  profile : ∀ value ∈ response.profile, kind value ∧ value ≠ .null

theorem depth_lt_of_mem_fields {response : Response} (shallow : response.toJson.depth ≤ 127) :
    ∀ field ∈ response.fields, field.2.depth < Json.nestingLimit := by
  have inside := Json.depthOfMembers_le_iff.mp (Nat.le_of_succ_le_succ shallow)
  exact fun field member => Nat.lt_succ_of_le (inside field member)

theorem carries_fitting {response : Response} (exact' : response.Carries Json.Exact)
    (shallow : response.toJson.depth ≤ 127) : response.Carries Fitting := by
  have below := depth_lt_of_mem_fields shallow
  constructor
  · intro values given
    have member : ("r", Json.array values) ∈ response.fields := by
      simp [fields, Option.mem_def.mp given, optionalField]
    exact ⟨exact'.results values given, below _ member⟩
  · intro value given
    have member : ("b", value) ∈ response.fields := by
      simp [fields, Option.mem_def.mp given, optionalField]
    obtain ⟨isExact, noNull⟩ := exact'.backtrace value given
    exact ⟨⟨isExact, below _ member⟩, noNull⟩
  · intro value given
    have member : ("p", value) ∈ response.fields := by
      simp [fields, Option.mem_def.mp given, optionalField]
    obtain ⟨isExact, noNull⟩ := exact'.profile value given
    exact ⟨⟨isExact, below _ member⟩, noNull⟩

theorem fitting_notesJson (response : Response) :
    ∀ notes ∈ response.notesJson, Fitting notes := by
  intro notes given
  rw [notesJson] at given
  split at given
  · cases given
  · obtain rfl := Option.some.inj given
    have flat : Json.depthOfItems (response.noteCodes.map int64Json) ≤ 0 :=
      Json.depthOfItems_le_iff.mpr (List.forall_mem_map.mpr fun _ _ => Nat.le_refl 0)
    constructor
    · exact .array (List.forall_mem_map.mpr fun code _ => (fitting_int64 code).isExact)
    · exact Nat.lt_of_le_of_lt (Nat.succ_le_succ flat) (by decide)

theorem writable_fields {response : Response} (fitting : response.Carries Fitting) :
    Writable fieldNames response.fields := by
  refine writable_of_ordered ?_ (by decide) ?_
  · simp only [fields, List.map_append]
    exact (((((keys_optionalField _ _).cons_cons "t").append (keys_optionalField _ _)).append
      (keys_optionalField _ _)).append (keys_optionalField _ _)).append (keys_optionalField _ _)
  · simp only [fields, List.forall_mem_append, List.forall_mem_cons]
    refine ⟨⟨⟨⟨⟨fitting_int64 _, ?_⟩, ?_⟩, ?_⟩, ?_⟩, ?_⟩
    · exact forall_optionalField (Option.forall_mem_map.mpr fitting.results) _
    · exact forall_optionalField (fun value given => (fitting.backtrace value given).1) _
    · exact forall_optionalField response.fitting_notesJson _
    · exact forall_optionalField (Option.forall_mem_map.mpr fun code _ => fitting_int64 code) _
    · exact forall_optionalField (fun value given => (fitting.profile value given).1) _

theorem int64s?_map (codes : List Int64) : int64s? (.array (codes.map int64Json)) = some codes := by
  have read : (codes.map int64Json).mapM int64? = some codes := by
    induction codes with
    | nil => rfl
    | cons code rest ih =>
        rw [List.map_cons, List.mapM_cons, ih, int64Json, int64?_toInt]
        rfl
  exact read

theorem ofRecord?_fields {response : Response} (fitting : response.Carries Fitting) :
    ofRecord? response.fields = some response := by
  have typeCode : response.fields.field "t" = some (.int response.typeCode.toInt) := by
    simp [fields, int64Json]
  have results : response.fields.optional? items? "r" = some response.results :=
    optional?_of_field (show _ = response.results.map .array by simp [fields]) fun _ _ =>
      ⟨by simp, rfl⟩
  have backtrace : response.fields.optional? some "b" = some response.backtrace :=
    optional?_of_field (show _ = response.backtrace.map id by simp [fields]) fun value given =>
      ⟨(fitting.backtrace value given).2, rfl⟩
  have noteCodes : response.fields.withDefault? int64s? [] "n" = some response.noteCodes := by
    have given : response.fields.field "n" = response.notesJson := by simp [fields]
    by_cases empty : response.noteCodes.isEmpty = true
    · rw [withDefault?, given, notesJson, if_pos empty, List.isEmpty_iff.mp empty]
    · rw [notesJson, if_neg empty] at given
      exact withDefault?_of_field given (int64s?_map response.noteCodes)
  have errorCode : response.fields.optional? int64? "e" = some response.errorCode :=
    optional?_of_field (show _ = response.errorCode.map int64Json by simp [fields]) fun code _ =>
      ⟨by simp [int64Json], int64?_toInt code⟩
  have profile : response.fields.optional? some "p" = some response.profile :=
    optional?_of_field (show _ = response.profile.map id by simp [fields]) fun value given =>
      ⟨(fitting.profile value given).2, rfl⟩
  rw [ofRecord?, typeCode, results, backtrace, noteCodes, errorCode, profile, Option.bind_eq_bind,
    Option.bind_some, int64?_toInt]
  rfl

theorem parse_toJson {response : Response} (fitting : response.Carries Fitting) :
    parse response.toJson.bytes = .ok response := by
  have read := read?_toJson (writable_fields fitting)
  simp only [parse, toJson, read, Option.bind_some, ofRecord?_fields fitting]

theorem items?_eq_some_iff {value : Json} {values : List Json} :
    items? value = some values ↔ value = .array values := by
  cases value <;> simp [items?]

theorem fitting_of_optional? {record : Json.Record} {name : String} {value : Json}
    (fitting : ∀ field ∈ record, Fitting field.2)
    (read : record.optional? some name = some (some value)) : Fitting value ∧ value ≠ .null := by
  obtain ⟨other, given, noNull, same⟩ := field_of_optional? read
  obtain rfl := Option.some.inj same
  exact ⟨fitting _ (mem_of_field given), noNull⟩

theorem fitting_of_ofRecord? {record : Json.Record} {response : Response}
    (fitting : ∀ field ∈ record, Fitting field.2) (read : ofRecord? record = some response) :
    response.Carries Fitting := by
  simp only [ofRecord?, Option.bind_eq_bind, Option.bind_eq_some_iff] at read
  obtain ⟨_, _, _, _, results, readResults, backtrace, readBacktrace, _, _, _, _, profile,
    readProfile, same⟩ := read
  obtain rfl := Option.some.inj same
  constructor
  · rintro values rfl
    obtain ⟨value, given, _, converted⟩ := field_of_optional? readResults
    obtain rfl := items?_eq_some_iff.mp converted
    exact fitting _ (mem_of_field given)
  · rintro value rfl
    exact fitting_of_optional? fitting readBacktrace
  · rintro value rfl
    exact fitting_of_optional? fitting readProfile

/-- No integer of a text that has been read is too large to be read again, and no null is kept. -/
theorem fitting_of_parse {payload : ByteArray} {response : Response}
    (integers : ∀ document ∈ Json.Document.read? payload.data.toList, document.AllIntegers)
    (parsed : parse payload = .ok response) : response.Carries Fitting := by
  simp only [parse] at parsed
  split at parsed
  · rename_i found read
    obtain rfl := Except.ok.inj parsed
    obtain ⟨record, readRecord, made⟩ := Option.bind_eq_some_iff.mp read
    exact fitting_of_ofRecord? (fitting_of_read? integers readRecord) made
  · cases parsed

/-- A response that is no deeper than a message may be is read back from its text, so its text
stands for what it stands for; and a response that has been read, in whatever form it was given, is
read back as well. -/
theorem survives_encoding :
    (∀ response : Response, response.Carries Json.Exact → response.toJson.depth ≤ 127 →
      parse response.toJson.bytes = .ok response ∧
        decode response.toJson.bytes = response.values) ∧
    ∀ payload response,
      (∀ document ∈ Json.Document.read? payload.data.toList, document.AllIntegers) →
        parse payload = .ok response → parse response.toJson.bytes = .ok response := by
  constructor
  · intro response isExact shallow
    have parsed := parse_toJson (carries_fitting isExact shallow)
    refine ⟨parsed, ?_⟩
    rw [decode, parsed]
    rfl
  · intro payload response integers parsed
    exact parse_toJson (fitting_of_parse integers parsed)

/-- An error with notes, and a text that has its fields in another order, one of them null and one
unknown. -/
theorem survives_encoding_disordered :
    let failure : Response := {
      typeCode := 18
      results := some [.object [("a", .array [.int (-1), .null]), ("b", .string "\x00")]]
      backtrace := some (.array [])
      noteCodes := [1, -5]
      errorCode := some 3100000
      profile := none }
    let payload := "\x7b\"x\":[[]],\"p\":7,\"t\":1,\"r\":null\x7d".toUTF8
    let answer : Response := {
      typeCode := 1
      results := none
      backtrace := none
      noteCodes := []
      errorCode := none
      profile := some (.int 7) }
    failure.Carries Json.Exact ∧ failure.toJson.depth ≤ 127 ∧
      parse failure.toJson.bytes = .ok failure ∧
      decode failure.toJson.bytes = failure.values ∧ parse payload = .ok answer ∧
      parse answer.toJson.bytes = .ok answer := by
  intro failure payload answer
  have negative : (Json.int (-1)).Exact := .int ⟨by decide, by decide⟩
  have isExact : failure.Carries Json.Exact := by
    refine ⟨?_, ?_, by simp [failure]⟩
    · rintro values ⟨⟩
      have ascending : "a" < "b" := by decide
      refine .array (List.forall_mem_singleton.mpr (.object (List.pairwise_pair.mpr ascending) ?_))
      simp [negative, Json.Exact.null, Json.Exact.string, Json.Exact.array]
    · rintro value ⟨⟩
      exact ⟨.array (List.forall_mem_nil _), by simp⟩
  have shallow : failure.toJson.depth ≤ 127 := by decide
  have integers : ∀ document ∈ Json.Document.read? payload.data.toList, document.AllIntegers := by
    have read : Json.Document.read? payload.data.toList = some (.object [
      (Json.textPieces "x", .array [.array []]), (Json.textPieces "p", .number (.ofInt 7)),
      (Json.textPieces "t", .number (.ofInt 1)), (Json.textPieces "r", .null)]) := rfl
    rw [read]
    rintro document ⟨⟩
    have one : (Json.Numeral.ofInt 1).IsInteger :=
      Json.Numeral.isInteger_ofInt ⟨by decide, by decide⟩
    have seven : (Json.Numeral.ofInt 7).IsInteger :=
      Json.Numeral.isInteger_ofInt ⟨by decide, by decide⟩
    exact ⟨⟨trivial, trivial⟩, seven, one, trivial, trivial⟩
  obtain ⟨written, given⟩ := survives_encoding
  obtain ⟨parsed, decoded⟩ := written failure isExact shallow
  have accepted : parse payload = .ok answer := rfl
  exact ⟨isExact, shallow, parsed, decoded, accepted, given payload answer integers accepted⟩

end QueryDriver.Response
