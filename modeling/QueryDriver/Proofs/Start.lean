import QueryDriver.Proofs.Build
import QueryDriver.Proofs.Json.Record
import QueryDriver.Proofs.Members
import QueryDriver.Proofs.Term.Wire
import QueryDriver.Start

/-!
What a START query says. Its text is that of the term and of the options that are set, and no two
pairs of a term and options have the same text.
-/

namespace QueryDriver

namespace Term

/-- All literals of the term are scalars, and none of them is a double. -/
inductive Whole : Term → Prop
  | literal {value : Json} (scalar : value.isScalar = true) (whole : value.Whole) :
      Whole (.literal value)
  | node (tag : Tag) {operands : List Term} {options : List (String × Term)}
      (wholeOperands : ∀ operand ∈ operands, Whole operand)
      (wholeOptions : ∀ option ∈ options, Whole option.2) : Whole (.node tag operands options)

theorem Whole.plain {term : Term} (whole : term.Whole) : term.Plain := by
  induction whole with
  | literal scalar _ => exact .literal scalar
  | node tag _ _ plainOperands plainOptions => exact .node tag plainOperands plainOptions

theorem whole_wireOperands {operands : List Term}
    (each : ∀ operand ∈ operands, operand.toWire.Whole) :
    ∀ item ∈ wireOperands operands, item.Whole := by
  induction operands with
  | nil => exact List.forall_mem_nil _
  | cons operand rest ih =>
      obtain ⟨first, others⟩ := List.forall_mem_cons.mp each
      exact List.forall_mem_cons.mpr ⟨first, ih others⟩

theorem whole_wireOptions {options : List (String × Term)}
    (each : ∀ option ∈ options, option.2.toWire.Whole) :
    ∀ member ∈ wireOptions options, member.2.Whole := by
  induction options with
  | nil => exact List.forall_mem_nil _
  | cons option rest ih =>
      obtain ⟨first, others⟩ := List.forall_mem_cons.mp each
      exact List.forall_mem_cons.mpr ⟨first, ih others⟩

theorem Whole.toWire {term : Term} (whole : term.Whole) : term.toWire.Whole := by
  induction whole with
  | literal _ whole =>
      rw [Term.toWire]
      exact whole
  | @node tag operands options _ _ eachOperand eachOption =>
      have operandsWhole := Json.Whole.array (whole_wireOperands eachOperand)
      have optionsWhole := Json.Whole.object (whole_wireOptions eachOption)
      cases options with
      | nil =>
          rw [Term.toWire]
          exact .array (by simp [operandsWhole, Json.Whole.int])
      | cons option rest =>
          rw [Term.toWire]
          · exact .array (by simp [operandsWhole, optionsWhole, Json.Whole.int])
          · exact List.cons_ne_nil option rest

end Term

theorem Durability.name_injective : Function.Injective Durability.name := by
  intro first second same
  cases first <;> cases second <;> simp [name] at same ⊢

theorem ReadMode.name_injective : Function.Injective ReadMode.name := by
  intro first second same
  cases first <;> cases second <;> simp [name] at same ⊢

namespace RunOptions

open Json.Record

/-- The options that are set, by key: a database as a DB term and the others as they are. -/
def entries (options : RunOptions) : Members Json :=
  optionalField "db" (options.db.map fun name => .array [.int 14, .array [.string name]]) ++
    optionalField "durability" (options.durability.map fun durability => .string durability.name) ++
    optionalField "profile" (options.profile.map .bool) ++
    optionalField "read_mode" (options.readMode.map fun mode => .string mode.name)

section Order

variable (db durability readMode profile : Option Json)

theorem keys_ordered :
    ((optionalField "db" db ++ optionalField "durability" durability ++
        optionalField "profile" profile ++ optionalField "read_mode" readMode).map Prod.fst).Sublist
      ["db", "durability", "profile", "read_mode"] := by
  simp only [List.map_append]
  exact (((keys_optionalField _ db).append (keys_optionalField _ durability)).append
    (keys_optionalField _ profile)).append (keys_optionalField _ readMode)

theorem ofPairs_ordered :
    Members.ofPairs (optionalField "db" db ++ optionalField "durability" durability ++
        optionalField "read_mode" readMode ++ optionalField "profile" profile) =
      optionalField "db" db ++ optionalField "durability" durability ++
        optionalField "profile" profile ++ optionalField "read_mode" readMode := by
  have keys := keys_ordered db durability readMode profile
  have ascending : Members.Ascending (optionalField "db" db ++
      optionalField "durability" durability ++ optionalField "profile" profile ++
      optionalField "read_mode" readMode) := by
    have ordered : ["db", "durability", "profile", "read_mode"].Pairwise (· < ·) := by decide
    exact List.pairwise_map.mp (ordered.sublist keys)
  have distinct := keys.nodup (by decide)
  -- the profile is put in last, but its key stands before that of the read mode
  rw [← ascending.ofPairs_eq]
  refine (Members.ofPairs_perm ?_ distinct).symm
  simp only [List.append_assoc]
  exact (List.perm_append_comm.append_left _).append_left _

end Order

theorem optionTerm_map {α : Type} (key : String) (value : Option α) {build : α → Build Term}
    (term : α → Term) (built : ∀ value next, build value next = (.ok (term value), next))
    (next : Nat) :
    optionTerm key (value.map build) next =
      (.ok (optionalField key (value.map fun value => (term value).toWire)), next) := by
  cases value with
  | none => rfl
  | some value =>
      rw [Option.map_some, optionTerm, Computation.bind_apply, built]
      rfl

theorem toWire_eq_entries (options : RunOptions) (next : Nat) :
    options.toWire next = (.ok options.entries, next) := by
  have db := optionTerm_map "db" options.db
    (fun name => .op .db [.literal (.string name)])
    (show ∀ name next, Starter.db.build [.ofString name] next = _ from fun _ _ => rfl) next
  have durability := optionTerm_map "durability" options.durability
    (fun durability => .literal (.string durability.name))
    (show ∀ durability next, expr (.ofString durability.name) next = _ from fun _ _ => rfl) next
  have readMode := optionTerm_map "read_mode" options.readMode
    (fun mode => .literal (.string mode.name))
    (show ∀ mode next, expr (.ofString mode.name) next = _ from fun _ _ => rfl) next
  have profile := optionTerm_map "profile" options.profile
    (fun profile => .literal (.bool profile))
    (show ∀ profile next, expr (.ofBool profile) next = _ from fun _ _ => rfl) next
  simp only [toWire, Computation.bind_apply, db, durability, readMode, profile, ofPairs_ordered]
  rfl

theorem whole_entries (options : RunOptions) : ∀ member ∈ options.entries, member.2.Whole := by
  simp only [entries, List.forall_mem_append]
  refine ⟨⟨⟨?_, ?_⟩, ?_⟩, ?_⟩
  · refine forall_optionalField (Option.forall_mem_map.mpr fun name _ => ?_) _
    exact .array (by simp [Json.Whole.int, Json.Whole.array, Json.Whole.string])
  · exact forall_optionalField (Option.forall_mem_map.mpr fun _ _ => .string _) _
  · exact forall_optionalField (Option.forall_mem_map.mpr fun _ _ => .bool _) _
  · exact forall_optionalField (Option.forall_mem_map.mpr fun _ _ => .string _) _

theorem entries_injective {first second : RunOptions} (same : first.entries = second.entries) :
    first = second := by
  have looked (key : String) := congrArg (fun record => field record key) same
  have db := looked "db"
  have durability := looked "durability"
  have profile := looked "profile"
  have readMode := looked "read_mode"
  simp only [entries, field_append, field_optionalField, String.reduceEq, if_true, if_false,
    Option.or_none, Option.none_or] at db durability profile readMode
  cases first with
  | mk firstDb firstDurability firstReadMode firstProfile =>
      cases second with
      | mk secondDb secondDurability secondReadMode secondProfile =>
          rw [mk.injEq]
          refine ⟨?_, ?_, ?_, ?_⟩
          · exact Option.map_injective (fun _ _ same => by simpa using same) db
          · exact Option.map_injective
              (fun _ _ same => Durability.name_injective (Json.string.inj same)) durability
          · exact Option.map_injective
              (fun _ _ same => ReadMode.name_injective (Json.string.inj same)) readMode
          · exact Option.map_injective (fun _ _ same => Json.bool.inj same) profile

end RunOptions

namespace Start

theorem whole_message {term : Term} (whole : term.Whole) (options : RunOptions) :
    (message term.toWire options.entries).Whole := by
  refine .array (List.forall_mem_cons.mpr ⟨.int _, List.forall_mem_cons.mpr ⟨whole.toWire, ?_⟩⟩)
  exact List.forall_mem_singleton.mpr (.object options.whole_entries)

theorem payload_eq (term : Term) (options : RunOptions) (next : Nat) :
    payload term options next = (.ok (message term.toWire options.entries).bytes, next) := by
  rw [payload, Computation.bind_apply, options.toWire_eq_entries]
  rfl

/-- The payload of a query can always be made. It is the text of an array of the query's type, what
is sent for the term, and the options that are set; it is read as that array; and it tells the term
and the options. -/
theorem payload_determines_query :
    (∀ term options next, payload term options next =
      (.ok (Json.array [.int 1, term.toWire, .object options.entries]).bytes, next)) ∧
    (∀ (term : Term) (options : RunOptions), term.Whole →
      let message := Json.array [.int 1, term.toWire, .object options.entries]
      Json.Document.read? message.bytes.data.toList = some message.document) ∧
    ∀ (term other : Term) (options settings : RunOptions) next later, term.Whole → other.Whole →
      (payload term options next).1 = (payload other settings later).1 →
        term = other ∧ options = settings := by
  refine ⟨payload_eq, ?_, ?_⟩
  · intro term options whole
    exact Json.Document.read?_of_whole (whole_message whole options)
  · intro term other options settings next later wholeTerm wholeOther same
    rw [payload_eq, payload_eq] at same
    have messages := Json.bytes_injective (whole_message wholeTerm options)
      (whole_message wholeOther settings) (Except.ok.inj same)
    simp only [message, Json.array.injEq, List.cons.injEq, Json.object.injEq, true_and,
      and_true] at messages
    exact ⟨Term.toWire_injective wholeTerm.plain wholeOther.plain messages.1,
      RunOptions.entries_injective messages.2⟩

/-- Without quoting, one name that holds quotes and a comma would be taken for two names. -/
theorem payload_determines_query_quoting :
    let one := Term.op .table [.literal (.string "a\",\"é\\")]
    let two := Term.op .table [.literal (.string "a"), .literal (.string "é\\")]
    let options : RunOptions := { db := some "\x00", profile := some true }
    let message := Json.array [.int 1, one.toWire, .object options.entries]
    one.Whole ∧ two.Whole ∧ (payload one options 3).1 = .ok message.bytes ∧
      Json.Document.read? message.bytes.data.toList = some message.document ∧
      (payload one options 3).1 ≠ (payload two options 5).1 := by
  intro one two options message
  have wholeOne : one.Whole := by
    refine .node .table (List.forall_mem_singleton.mpr ?_) (List.forall_mem_nil _)
    exact .literal rfl (.string _)
  have wholeTwo : two.Whole := by
    refine .node .table (List.forall_mem_cons.mpr ⟨?_, List.forall_mem_singleton.mpr ?_⟩)
      (List.forall_mem_nil _) <;> exact .literal rfl (.string _)
  obtain ⟨made, readBack, determined⟩ := payload_determines_query
  refine ⟨wholeOne, wholeTwo, ?_, readBack one options wholeOne, ?_⟩
  · rw [made]
  · intro same
    have ⟨sameTerm, _⟩ := determined one two options options 3 5 wholeOne wholeTwo same
    simp [one, two, Term.op] at sameTerm

end Start

end QueryDriver
