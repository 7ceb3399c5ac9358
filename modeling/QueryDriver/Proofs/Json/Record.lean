import Mathlib.Data.Option.Basic
import QueryDriver.Json.Record
import QueryDriver.Proofs.Json.Reader

/-!
Reading messages. A message that has been written is read as the fields that were written, whatever
order they stand in, and a message whose numbers are integers is read as fields of that kind.
-/

namespace QueryDriver.Json.Record

/-- What may stand in a field: integers are its only numbers, and a message around it is not too
deep. -/
structure Fitting (value : Json) : Prop where
  isExact : value.Exact
  shallow : value.depth < nestingLimit

/-- Fields that a message may have, each at most once and under a known name. -/
structure Writable (names : List String) (record : Record) : Prop where
  known : ∀ field ∈ record, field.1 ∈ names
  distinct : (record.map Prod.fst).Nodup
  fitting : ∀ field ∈ record, Fitting field.2

theorem writable_of_ordered {names : List String} {record : Record}
    (ordered : (record.map Prod.fst).Sublist names) (distinct : names.Nodup)
    (fitting : ∀ field ∈ record, Fitting field.2) : Writable names record :=
  ⟨fun _ member => ordered.subset (List.mem_map_of_mem member), ordered.nodup distinct, fitting⟩

theorem ofMembers?_memberDocuments {names : List String} {record : Record}
    (writable : Writable names record) :
    ofMembers? names (memberDocuments record) = some record := by
  obtain ⟨known, distinct, fitting⟩ := writable
  induction record with
  | nil => rfl
  | cons field rest ih =>
      obtain ⟨isKnown, othersKnown⟩ := List.forall_mem_cons.mp known
      obtain ⟨fresh, othersDistinct⟩ := List.nodup_cons.mp distinct
      obtain ⟨fits, othersFit⟩ := List.forall_mem_cons.mp fitting
      have value := ofDocument?_document fits.isExact (Nat.le_sub_one_of_lt fits.shallow)
      have others := ih othersKnown othersDistinct othersFit
      rw [memberDocuments, ofMembers?, textPieces, Quoted.text?_pieces, others]
      simp only [isKnown, fresh, value, if_true, if_false, Option.map_some]

theorem Writable.whole {names : List String} {record : Record}
    (writable : Writable names record) : record.toJson.Whole :=
  .object fun field member => (writable.fitting field member).isExact.whole

theorem read?_toJson {names : List String} {record : Record} (writable : Writable names record) :
    read? names record.toJson.bytes.data.toList = some record := by
  rw [read?, Document.read?_of_whole writable.whole]
  exact ofMembers?_memberDocuments writable

theorem fitting_of_ofMembers? {names : List String}
    {members : List (List Quoted.Piece × Document)} {record : Record}
    (integers : Document.AllIntegersOfMembers members)
    (read : ofMembers? names members = some record) :
    ∀ field ∈ record, Fitting field.2 := by
  induction members generalizing record with
  | nil =>
      cases read
      exact List.forall_mem_nil _
  | cons member rest ih =>
      obtain ⟨integer, others⟩ := integers
      rw [ofMembers?] at read
      split at read
      · rename_i key fields _ behind
        have kept := ih others behind
        split at read
        · split at read
          · cases read
          · obtain ⟨value, inside, rfl⟩ := Option.map_eq_some_iff.mp read
            have ⟨isExact, shallow⟩ := Document.exact_of_ofDocument? _ value _ integer inside
            exact List.forall_mem_cons.mpr ⟨⟨isExact, Nat.lt_succ_of_le shallow⟩, kept⟩
        · cases read
          exact kept
      · cases read

theorem fitting_of_read? {names : List String} {input : List UInt8} {record : Record}
    (integers : ∀ document ∈ Document.read? input, document.AllIntegers)
    (read : read? names input = some record) :
    ∀ field ∈ record, Fitting field.2 := by
  rw [read?] at read
  split at read
  · rename_i members isRead
    exact fitting_of_ofMembers? (integers _ isRead) read
  · rename_i items isRead
    split at read
    · obtain ⟨values, inside, rfl⟩ := Option.map_eq_some_iff.mp read
      have each := Document.exact_of_ofItems? _ values items (integers _ isRead) inside
      intro field member
      have ⟨isExact, shallow⟩ := each field.2 (List.of_mem_zip member).2
      exact ⟨isExact, Nat.lt_succ_of_le shallow⟩
    · cases read
  · cases read

@[simp] theorem field_nil (name : String) : field [] name = none :=
  rfl

@[simp] theorem field_cons (first : String × Json) (rest : Record) (name : String) :
    field (first :: rest) name = if name = first.1 then some first.2 else field rest name := by
  obtain ⟨other, value⟩ := first
  rw [field, List.lookup_cons]
  by_cases same : name = other
  · rw [beq_iff_eq.mpr same, if_pos same]
  · rw [beq_eq_false_iff_ne.mpr same, if_neg same]
    rfl

@[simp] theorem field_append (first second : Record) (name : String) :
    field (first ++ second) name = (field first name).or (field second name) :=
  List.lookup_append

@[simp] theorem field_optionalField (other : String) (value : Option Json) (name : String) :
    field (optionalField other value) name = if name = other then value else none := by
  cases value with
  | none => simp [optionalField]
  | some value => simp [optionalField]

theorem keys_optionalField (name : String) (value : Option Json) :
    ((optionalField name value).map Prod.fst).Sublist [name] := by
  cases value with
  | none => exact List.nil_sublist _
  | some _ => exact List.Sublist.refl _

theorem forall_optionalField {holds : Json → Prop} {value : Option Json}
    (held : ∀ given ∈ value, holds given) (name : String) :
    ∀ field ∈ optionalField name value, holds field.2 := by
  cases value with
  | none => exact List.forall_mem_nil _
  | some given => exact List.forall_mem_singleton.mpr (held given rfl)

theorem int64?_toInt (value : Int64) : int64? (.int value.toInt) = some value := by
  rw [int64?, if_pos ⟨Int64.le_toInt value, Int64.toInt_le value⟩, Int64.ofInt_toInt]

theorem uint32?_toNat (value : UInt32) : uint32? (.int value.toNat) = some value := by
  rw [uint32?, if_pos]
  · exact congrArg some (UInt32.ofNat_toNat)
  · exact ⟨Int.natCast_nonneg _, Int.ofNat_lt.mpr value.toNat_lt⟩

theorem fitting_int64 (value : Int64) : Fitting (.int value.toInt) := by
  have below := Int64.toInt_lt value
  have size : (UInt64.size : Int) = 2 ^ 64 := rfl
  exact ⟨.int ⟨Int64.le_toInt value, by omega⟩, Nat.zero_lt_succ _⟩

theorem fitting_uint32 (value : UInt32) : Fitting (.int value.toNat) := by
  have below := value.toNat_lt
  have least : Int64.minValue.toInt < 0 := by decide
  have size : (UInt64.size : Int) = 2 ^ 64 := rfl
  exact ⟨.int ⟨by omega, by omega⟩, Nat.zero_lt_succ _⟩

theorem fitting_null : Fitting .null :=
  ⟨.null, Nat.zero_lt_succ _⟩

theorem fitting_bool (value : Bool) : Fitting (.bool value) :=
  ⟨.bool value, Nat.zero_lt_succ _⟩

theorem fitting_string (value : String) : Fitting (.string value) :=
  ⟨.string value, Nat.zero_lt_succ _⟩

section Fields

variable {record : Record} {name : String}

theorem bool?_of_field {value : Bool} (given : record.field name = some (.bool value)) :
    record.bool? name = some value := by
  rw [bool?, given]

theorem string?_of_field {value : String} (given : record.field name = some (.string value)) :
    record.string? name = some value := by
  rw [string?, given]

theorem withDefault?_of_field {α : Type} {convert : Json → Option α} {default content : α}
    {value : Json} (given : record.field name = some value)
    (converts : convert value = some content) :
    record.withDefault? convert default name = some content := by
  rw [withDefault?, given]
  exact converts

theorem optional?_of_field {α : Type} {convert : Json → Option α} {json : α → Json}
    {value : Option α} (given : record.field name = value.map json)
    (converts : ∀ content ∈ value, json content ≠ .null ∧ convert (json content) = some content) :
    record.optional? convert name = some value := by
  cases value with
  | none => rw [optional?, given, Option.map_none]
  | some content =>
      obtain ⟨noNull, converted⟩ := converts content rfl
      rw [optional?, given, Option.map_some]
      split
      · contradiction
      · rename_i same
        exact absurd (Option.some.inj same) noNull
      · rename_i same
        rw [← Option.some.inj same, converted, Option.map_some]

theorem mem_of_field {value : Json} (given : record.field name = some value) :
    (name, value) ∈ record := by
  obtain ⟨before, behind, same, _⟩ := List.lookup_eq_some_iff.mp given
  rw [same]
  exact List.mem_append_right before List.mem_cons_self

theorem field_of_optional? {α : Type} {convert : Json → Option α} {content : α}
    (read : record.optional? convert name = some (some content)) :
    ∃ value, record.field name = some value ∧ value ≠ .null ∧ convert value = some content := by
  rw [optional?] at read
  split at read
  · cases read
  · cases read
  · rename_i value noNull given
    obtain ⟨other, converted, same⟩ := Option.map_eq_some_iff.mp read
    obtain rfl := Option.some.inj same
    exact ⟨value, given, noNull, converted⟩

end Fields

end QueryDriver.Json.Record
