import QueryDriver.Proofs.Scram.Attributes
import QueryDriver.Proofs.Scram.Calls
import QueryDriver.Proofs.Scram.Count

/-!
Which server-first messages a client accepts, told of the pieces between their commas, and the
error of each other message: that of the first check, in a fixed order, that the message fails.
-/

namespace QueryDriver.Scram

/-- What a message must satisfy, and the errors that tell of one that does not. -/
structure Check where
  holds : Prop
  refuses : ProtocolError → Prop

/-- An error of the first check that does not hold. -/
inductive FirstFails : List Check → ProtocolError → Prop
  | here {check : Check} {rest : List Check} {error : ProtocolError} :
      ¬check.holds → check.refuses error → FirstFails (check :: rest) error
  | behind {check : Check} {rest : List Check} {error : ProtocolError} :
      check.holds → FirstFails rest error → FirstFails (check :: rest) error

/-- The last segment of a key gives it a value. -/
def Says (pieces : List (List Char)) (key : Char) (value : String) : Prop :=
  IsLast pieces key (key :: '=' :: value.toList)

/-- A server-first message that a client accepts, and what it asks for. -/
structure Acceptable (clientNonce : String) (pieces : List (List Char)) (first : ServerFirst) :
    Prop where
  formed : ∀ piece ∈ pieces, WellFormed piece
  unextended : ∀ piece ∈ pieces, piece.head? ≠ some 'm'
  nonce : Says pieces 'r' first.nonce
  begins : ∃ rest, first.nonce = clientNonce ++ rest
  salt : Says pieces 's' (Base64.encode first.salt)
  iterations : ∃ text, Says pieces 'i' text ∧ Counts text.toList first.iterations
  positive : 1 ≤ first.iterations

namespace Check

variable (clientNonce : String) (pieces : List (List Char)) (key : Char)

/-- A check with one error. -/
def telling (error : ProtocolError) (holds : Prop) : Check where
  holds := holds
  refuses := (· = error)

def wellFormed : Check where
  holds := ∀ piece ∈ pieces, WellFormed piece
  refuses error := ∃ piece, pieces.find? (fun piece => ¬WellFormed piece) = some piece ∧
    error = .driver (.malformedAttributes (String.ofList piece))

def unextended : Check :=
  telling (.invalidMessage .mandatoryExtension) (∀ piece ∈ pieces, piece.head? ≠ some 'm')

def given : Check :=
  telling (.invalidMessage (.missingAttribute key)) (∃ value, Says pieces key value)

def nonceBegins : Check :=
  telling (.auth .invalidNonce) (∃ rest, Says pieces 'r' (clientNonce ++ rest))

def saltDecodes : Check :=
  telling (.invalidMessage .saltEncoding) (∃ salt, Says pieces 's' (Base64.encode salt))

def iterationsCount : Check where
  holds := ∃ text number, Says pieces 'i' text ∧ Counts text.toList number
  refuses error := ∃ text fault, Says pieces 'i' text ∧ Miscounts text.toList fault ∧
    error = .invalidMessage (.iterationCount fault)

def iterationsPositive : Check :=
  telling (.invalidMessage .zeroIterations)
    (∃ text number, Says pieces 'i' text ∧ Counts text.toList number ∧ 1 ≤ number)

/-- The checks of a server-first message in their order. -/
def all : List Check :=
  [wellFormed pieces, unextended pieces, given pieces 'r', nonceBegins clientNonce pieces,
    given pieces 's', saltDecodes pieces, given pieces 'i', iterationsCount pieces,
    iterationsPositive pieces]

end Check

section Order

variable {α β : Type} {check : Check} {rest : List Check} {error : ProtocolError}

theorem firstFails_of_not (fails : ¬check.holds) :
    FirstFails (check :: rest) error ↔ check.refuses error := by
  constructor
  · intro first
    cases first with
    | here _ refuses => exact refuses
    | behind holds _ => exact absurd holds fails
  · exact .here fails

theorem firstFails_of_holds (holds : check.holds) :
    FirstFails (check :: rest) error ↔ FirstFails rest error := by
  constructor
  · intro first
    cases first with
    | here fails _ => exact absurd holds fails
    | behind _ others => exact others
  · exact .behind holds

/-- A computation that gives something just when a check holds, and else fails as the check
tells. -/
structure Check.Decides (check : Check) (result : Except ProtocolError α) : Prop where
  holds : check.holds ↔ ∃ value, result = .ok value
  refuses : ¬check.holds → ∀ error, result = .error error ↔ check.refuses error

theorem Check.decides_telling {error : ProtocolError} {holds : Prop}
    {result : Except ProtocolError α} (given : holds → ∃ value, result = .ok value)
    (refused : ¬holds → result = .error error) : (telling error holds).Decides result where
  holds := by
    constructor
    · exact given
    · rintro ⟨value, done⟩
      apply Classical.byContradiction
      intro fails
      rw [refused fails] at done
      cases done
  refuses := by
    intro fails other
    rw [refused fails, Except.error.injEq]
    exact eq_comm

theorem bind_fails_iff {first : Except ProtocolError α} {next : α → Except ProtocolError β}
    (decides : check.Decides first)
    (others : ∀ value, first = .ok value → (next value = .error error ↔ FirstFails rest error)) :
    first >>= next = .error error ↔ FirstFails (check :: rest) error := by
  cases first with
  | error refusal =>
      have fails : ¬check.holds := by
        rw [decides.holds]
        exact nofun
      rw [firstFails_of_not fails, ← decides.refuses fails]
      exact Iff.of_eq ((Except.error.injEq ..).trans (Except.error.injEq ..).symm)
  | ok value =>
      rw [firstFails_of_holds (decides.holds.mpr ⟨value, rfl⟩)]
      exact others value rfl

theorem unless_fails_iff {refused : Prop} [Decidable refused] {refusal : ProtocolError}
    {holds : Prop} {instead : β → Except ProtocolError α} {next : Except ProtocolError α}
    (decides : holds ↔ ¬refused)
    (others : holds → (next = .error error ↔ FirstFails rest error)) :
    (if refused then throw refusal >>= instead else next) = .error error ↔
      FirstFails (.telling refusal holds :: rest) error := by
  by_cases fails : refused
  · rw [if_pos fails, firstFails_of_not fun holds => decides.mp holds fails]
    exact (Iff.of_eq (Except.error.injEq ..)).trans eq_comm
  · have passes := decides.mpr fails
    rw [if_neg fails, others passes, firstFails_of_holds passes]

end Order

section Reading

variable {pieces : List (List Char)} {key : Char} {value : String}

theorem wellFormed_decides (message : String) :
    (Check.wellFormed (message.toList.splitOn ',')).Decides
      ((Attributes.parse message).mapError ProtocolError.driver) where
  holds := by
    constructor
    · intro formed
      exact ⟨_, mapError_eq_ok.mpr (Attributes.parse_of_splitOn rfl formed)⟩
    · rintro ⟨attributes, parsed⟩
      exact (Attributes.parse_eq_ok_iff.mp (mapError_eq_ok.mp parsed)).1
  refuses := by
    intro _ error
    rw [mapError_eq_error]
    constructor
    · rintro ⟨cause, failed, rfl⟩
      obtain ⟨piece, first, rfl⟩ := Attributes.parse_eq_error_iff.mp failed
      exact ⟨piece, first, rfl⟩
    · rintro ⟨piece, first, rfl⟩
      exact ⟨_, Attributes.parse_of_malformed first, rfl⟩

theorem given_decides (formed : ∀ piece ∈ pieces, WellFormed piece) (key : Char) :
    (Check.given pieces key).Decides
      (Attributes.require (pieces.filterMap attributeIn) key) := by
  apply Check.decides_telling
  · rintro ⟨value, said⟩
    exact ⟨value, require_eq_ok_iff.mpr ((Attributes.get?_eq_some_iff _ key formed).mpr said)⟩
  · intro unsaid
    rw [Attributes.require]
    cases given : Attributes.get? (pieces.filterMap attributeIn) key with
    | none => rfl
    | some value => exact absurd ⟨value, (Attributes.get?_eq_some_iff _ key formed).mp given⟩ unsaid

theorem says_of_require (formed : ∀ piece ∈ pieces, WellFormed piece)
    (given : Attributes.require (pieces.filterMap attributeIn) key = .ok value) :
    Says pieces key value :=
  (Attributes.get?_eq_some_iff pieces key formed).mp (require_eq_ok_iff.mp given)

theorem toList_prefix_iff {start text : String} :
    start.toList <+: text.toList ↔ ∃ rest, text = start ++ rest := by
  constructor
  · rintro ⟨letters, same⟩
    refine ⟨String.ofList letters, String.toList_inj.mp ?_⟩
    rw [String.toList_append, String.toList_ofList, same]
  · rintro ⟨rest, rfl⟩
    rw [String.toList_append]
    exact List.prefix_append _ _

theorem says_append_iff (said : Says pieces key value) {start : String} :
    (∃ rest, Says pieces key (start ++ rest)) ↔ start.toList <+: value.toList := by
  rw [toList_prefix_iff]
  constructor
  · rintro ⟨rest, longer⟩
    exact ⟨rest, said.unique longer⟩
  · rintro ⟨rest, rfl⟩
    exact ⟨rest, said⟩

theorem saltDecodes_decides (said : Says pieces 's' value) :
    (Check.saltDecodes pieces).Decides (readSalt value) := by
  apply Check.decides_telling
  · rintro ⟨salt, encoded⟩
    rw [said.unique encoded]
    exact ⟨salt, readSalt_eq_ok_iff.mpr (Base64.decode_eq_some_iff.mpr rfl)⟩
  · intro other
    rw [readSalt]
    cases decoded : Base64.decode? value with
    | none => rfl
    | some salt =>
        obtain rfl := Base64.decode_eq_some_iff.mp decoded
        exact absurd ⟨salt, said⟩ other

theorem iterationsCount_decides (said : Says pieces 'i' value) :
    (Check.iterationsCount pieces).Decides
      ((readCount value).mapError fun fault => .invalidMessage (.iterationCount fault)) where
  holds := by
    constructor
    · rintro ⟨text, number, given, counts⟩
      obtain rfl := said.unique given
      exact ⟨number, mapError_eq_ok.mpr (readCount_of_counts counts)⟩
    · rintro ⟨number, read⟩
      exact ⟨value, number, said, readCount_eq_ok_iff.mp (mapError_eq_ok.mp read)⟩
  refuses := by
    intro _ error
    rw [mapError_eq_error]
    constructor
    · rintro ⟨fault, read, rfl⟩
      exact ⟨value, fault, said, readCount_eq_error_iff.mp read, rfl⟩
    · rintro ⟨text, fault, given, miscounts, rfl⟩
      obtain rfl := said.unique given
      exact ⟨fault, readCount_of_miscounts miscounts, rfl⟩

theorem readIterations_eq_bind (text : String) :
    readIterations text =
      (readCount text).mapError (fun fault => .invalidMessage (.iterationCount fault)) >>=
        fun count =>
          if count = 0 then .error (.invalidMessage .zeroIterations) else .ok count := by
  rw [readIterations]
  cases readCount text with
  | error fault => rfl
  | ok count => cases count <;> rfl

theorem iterationsPositive_decides {count : Nat} (said : Says pieces 'i' value)
    (counts : Counts value.toList count) :
    (Check.iterationsPositive pieces).Decides
      (if count = 0 then .error (.invalidMessage .zeroIterations) else .ok count) := by
  apply Check.decides_telling
  · rintro ⟨text, number, given, same, positive⟩
    obtain rfl := said.unique given
    obtain rfl := counts.value.trans same.value.symm
    exact ⟨count, if_neg (Nat.ne_of_gt positive)⟩
  · intro other
    refine if_pos (Classical.byContradiction fun nonzero => other ?_)
    exact ⟨value, count, said, counts, Nat.one_le_iff_ne_zero.mpr nonzero⟩

theorem read_eq_error_iff {clientNonce message : String} {error : ProtocolError} :
    ServerFirst.read clientNonce message = .error error ↔
      FirstFails (Check.all clientNonce (message.toList.splitOn ',')) error := by
  rw [ServerFirst.read, Check.all]
  refine bind_fails_iff (wellFormed_decides message) fun attributes parsed => ?_
  obtain ⟨formed, rfl⟩ := Attributes.parse_eq_ok_iff.mp (mapError_eq_ok.mp parsed)
  refine unless_fails_iff ?_ fun _ => ?_
  · simp only [Attributes.contains_eq_true_iff, not_exists, not_and]
  refine bind_fails_iff (given_decides formed 'r') fun nonce given => ?_
  have saidNonce := says_of_require formed given
  refine unless_fails_iff ?_ fun _ => ?_
  · simp only [says_append_iff saidNonce, Bool.not_eq_true, Bool.not_eq_false',
      List.isPrefixOf_iff_prefix]
  refine bind_fails_iff (given_decides formed 's') fun salt given => ?_
  have saidSalt := says_of_require formed given
  refine bind_fails_iff (saltDecodes_decides saidSalt) fun _ _ => ?_
  refine bind_fails_iff (given_decides formed 'i') fun count given => ?_
  have saidCount := says_of_require formed given
  rw [readIterations_eq_bind, bind_assoc]
  refine bind_fails_iff (iterationsCount_decides saidCount) fun number read => ?_
  have counts := readCount_eq_ok_iff.mp (mapError_eq_ok.mp read)
  refine bind_fails_iff (iterationsPositive_decides saidCount counts) fun _ _ => ?_
  constructor
  · intro failed
    cases failed
  · intro fails
    cases fails

theorem read_eq_ok_iff_acceptable {clientNonce message : String} {first : ServerFirst} :
    ServerFirst.read clientNonce message = .ok first ↔
      Acceptable clientNonce (message.toList.splitOn ',') first := by
  rw [read_eq_ok_iff]
  constructor
  · rintro ⟨attributes, parsed, plain, nonce, begins, ⟨salt, saltGiven, decoded⟩, text, textGiven,
      read, positive⟩
    obtain ⟨formed, rfl⟩ := Attributes.parse_eq_ok_iff.mp parsed
    obtain rfl := Base64.decode_eq_some_iff.mp decoded
    exact {
      formed
      unextended := fun piece member own =>
        Bool.false_ne_true (plain.symm.trans
          ((Attributes.contains_eq_true_iff _ 'm').mpr ⟨piece, member, own⟩))
      nonce := (Attributes.get?_eq_some_iff _ 'r' formed).mp nonce
      begins := toList_prefix_iff.mp begins
      salt := (Attributes.get?_eq_some_iff _ 's' formed).mp saltGiven
      iterations := ⟨text, (Attributes.get?_eq_some_iff _ 'i' formed).mp textGiven,
        readCount_eq_ok_iff.mp read⟩
      positive := Nat.one_le_iff_ne_zero.mpr positive }
  · intro acceptable
    obtain ⟨formed, unextended, nonce, begins, salt, ⟨text, said, counts⟩, positive⟩ := acceptable
    refine ⟨_, Attributes.parse_of_splitOn rfl formed, ?_,
      (Attributes.get?_eq_some_iff _ 'r' formed).mpr nonce, toList_prefix_iff.mpr begins,
      ⟨_, (Attributes.get?_eq_some_iff _ 's' formed).mpr salt, Base64.decode_eq_some_iff.mpr rfl⟩,
      text, (Attributes.get?_eq_some_iff _ 'i' formed).mpr said, readCount_of_counts counts,
      Nat.one_le_iff_ne_zero.mp positive⟩
    rw [← Bool.not_eq_true, Attributes.contains_eq_true_iff]
    rintro ⟨piece, member, own⟩
    exact unextended piece member own

end Reading

namespace Exchange

/-- Whatever the client and the message, the client accepts just the acceptable messages, as what
they say, and answers any other message with the error of the first check that it fails. -/
theorem handleServerFirst_exact (client : Client) (message : String) :
    let pieces := message.toList.splitOn ','
    let answer := (handleServerFirst message client).1
    (∀ first, answer = .ok first ↔ Acceptable client.nonce pieces first) ∧
    ∀ error, answer = .error error ↔ FirstFails (Check.all client.nonce pieces) error := by
  intro pieces answer
  have same : answer = ServerFirst.read client.nonce message := by
    simp only [answer, handleServerFirst_apply]
    cases ServerFirst.read client.nonce message <;> rfl
  rw [same]
  exact ⟨fun first => read_eq_ok_iff_acceptable, fun error => read_eq_error_iff⟩

end Exchange

end QueryDriver.Scram
