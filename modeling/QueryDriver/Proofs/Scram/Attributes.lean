import QueryDriver.Proofs.Computation
import QueryDriver.Scram.Attributes

/-!
Which texts are attribute lists, and what they say. Every piece between commas must be a segment;
of the segments with one key the last counts, also where it takes the value away that an earlier
one has given.
-/

namespace QueryDriver.Scram

/-- Nothing, a key alone, or a key with an equals sign and a value that is not empty. -/
inductive WellFormed : List Char → Prop
  | empty : WellFormed []
  | bare (key : Char) : WellFormed [key]
  | pair (key : Char) {value : List Char} : value ≠ [] → WellFormed (key :: '=' :: value)

theorem wellFormed_cons_cons {key mark : Char} {value : List Char} :
    WellFormed (key :: mark :: value) ↔ mark = '=' ∧ value ≠ [] := by
  constructor
  · intro formed
    cases formed with
    | pair _ given => exact ⟨rfl, given⟩
  · rintro ⟨rfl, given⟩
    exact .pair key given

instance : DecidablePred WellFormed
  | [] => isTrue .empty
  | [key] => isTrue (.bare key)
  | _ :: _ :: _ => decidable_of_iff _ wellFormed_cons_cons.symm

/-- The value in a segment that begins with a key. -/
def valueIn : List Char → Option String
  | _ :: _ :: value => some (String.ofList value)
  | _ => none

/-- The attribute that a segment gives. -/
def attributeIn (segment : List Char) : Option Attribute :=
  segment.head?.map fun key => ⟨key, valueIn segment⟩

/-- A segment sets its key anew, and leaves what is said of others. -/
def override (said : Char → Option (Option String)) (segment : List Char) (key : Char) :
    Option (Option String) :=
  if segment.head? = some key then some (valueIn segment) else said key

/-- The keys that segments set, one after another, with their values. -/
def lastWins (segments : List (List Char)) : Char → Option (Option String) :=
  segments.foldl override fun _ => none

/-- The last segment that begins with a key. -/
def IsLast (segments : List (List Char)) (key : Char) (segment : List Char) : Prop :=
  ∃ before after, segments = before ++ segment :: after ∧ segment.head? = some key ∧
    ∀ later ∈ after, later.head? ≠ some key

theorem segments_eq_splitOn (letters : List Char) : segments letters = letters.splitOn ',' := by
  induction letters with
  | nil => rfl
  | cons letter rest ih =>
      rw [segments, ih, List.splitOn_cons_eq_if_modifyHead]
      obtain ⟨first, others, split⟩ := List.exists_cons_of_ne_nil (List.splitOn_ne_nil ',' rest)
      simp only [split, beq_iff_eq, List.modifyHead_cons]

theorem readSegment_of_wellFormed {segment : List Char} (formed : WellFormed segment) :
    readSegment segment = .ok (attributeIn segment) := by
  cases formed with
  | empty => rfl
  | bare key => rfl
  | @pair key value given =>
      obtain ⟨first, rest, rfl⟩ := List.exists_cons_of_ne_nil given
      rfl

theorem readSegment_of_malformed {segment : List Char} (malformed : ¬WellFormed segment) :
    readSegment segment = .error (.malformedAttributes (String.ofList segment)) := by
  fun_cases readSegment segment with
  | case1 => exact absurd .empty malformed
  | case2 key => exact absurd (.bare key) malformed
  | case3 key first rest => exact absurd (.pair key (List.cons_ne_nil _ _)) malformed
  | case4 => rfl

section LastWins

variable {segments : List (List Char)} {segment : List Char} {key : Char}

theorem foldl_override_of_absent (said : Char → Option (Option String))
    (absent : ∀ segment ∈ segments, segment.head? ≠ some key) :
    segments.foldl override said key = said key := by
  induction segments generalizing said with
  | nil => rfl
  | cons first rest ih =>
      obtain ⟨other, others⟩ := List.forall_mem_cons.mp absent
      rw [List.foldl_cons, ih _ others, override, if_neg other]

theorem lastWins_of_isLast (last : IsLast segments key segment) :
    lastWins segments key = some (valueIn segment) := by
  obtain ⟨before, after, rfl, own, others⟩ := last
  rw [lastWins, List.foldl_append, List.foldl_cons, foldl_override_of_absent _ others, override,
    if_pos own]

theorem IsLast.unique {value other : String}
    (last : IsLast segments key (key :: '=' :: value.toList))
    (too : IsLast segments key (key :: '=' :: other.toList)) : value = other := by
  have same := (lastWins_of_isLast last).symm.trans (lastWins_of_isLast too)
  simpa [valueIn] using same

theorem exists_isLast (given : ∃ segment ∈ segments, segment.head? = some key) :
    ∃ segment, IsLast segments key segment := by
  induction segments with
  | nil =>
      obtain ⟨_, member, _⟩ := given
      cases member
  | cons first rest ih =>
      by_cases later : ∃ segment ∈ rest, segment.head? = some key
      · obtain ⟨segment, before, after, rfl, last⟩ := ih later
        exact ⟨segment, first :: before, after, rfl, last⟩
      · obtain ⟨segment, member, own⟩ := given
        have same : segment = first :=
          (List.mem_cons.mp member).resolve_right fun behind => later ⟨segment, behind, own⟩
        subst same
        exact ⟨segment, [], rest, rfl, own, fun other behind its => later ⟨other, behind, its⟩⟩

theorem isSome_lastWins_iff :
    (lastWins segments key).isSome ↔ ∃ segment ∈ segments, segment.head? = some key := by
  constructor
  · intro said
    by_cases given : ∃ segment ∈ segments, segment.head? = some key
    · exact given
    · have silent : lastWins segments key = none :=
        foldl_override_of_absent _ fun segment member own => given ⟨segment, member, own⟩
      rw [silent] at said
      cases said
  · intro given
    obtain ⟨segment, last⟩ := exists_isLast given
    rw [lastWins_of_isLast last]
    rfl

/-- A key has a value just when the last segment of that key gives it. -/
theorem lastWins_eq_value_iff (formed : ∀ segment ∈ segments, WellFormed segment)
    {value : String} :
    lastWins segments key = some (some value) ↔
      IsLast segments key (key :: '=' :: value.toList) := by
  constructor
  · intro said
    obtain ⟨segment, last⟩ := exists_isLast (isSome_lastWins_iff.mp (by rw [said]; rfl))
    rw [lastWins_of_isLast last] at said
    have split := last
    obtain ⟨before, after, rfl, own, _⟩ := split
    have shape : WellFormed segment := formed segment (by simp)
    cases shape with
    | empty => cases own
    | bare => cases said
    | pair _ given =>
        obtain rfl := Option.some.inj own
        obtain rfl := Option.some.inj (Option.some.inj said)
        rwa [String.toList_ofList]
  · intro last
    rw [lastWins_of_isLast last, valueIn, String.ofList_toList]

end LastWins

namespace Attributes

section Meaning

variable (pieces : List (List Char)) (key : Char)

theorem foldl_override (said : Char → Option (Option String)) :
    pieces.foldl override said key =
      ((((pieces.filterMap attributeIn).filter fun found => found.key = key).getLast?).map
        (·.value)).or (said key) := by
  induction pieces generalizing said with
  | nil => rfl
  | cons first rest ih =>
      -- what the first piece gives is what the others start from
      rw [List.foldl_cons, ih]
      cases first with
      | nil => rfl
      | cons own letters =>
          by_cases same : own = key
          · simp only [override, attributeIn, List.head?_cons, same, if_pos, List.filterMap_cons,
              Option.map_some, List.filter_cons, decide_true, List.getLast?_cons]
            cases ((rest.filterMap attributeIn).filter fun found => found.key = key).getLast? with
            | none => rfl
            | some last => rfl
          · simp [override, attributeIn, same]

theorem get?_filterMap : get? (pieces.filterMap attributeIn) key = (lastWins pieces key).join := by
  rw [lastWins, foldl_override, Option.or_none, get?]
  cases ((pieces.filterMap attributeIn).filter fun found => found.key = key).getLast? with
  | none => rfl
  | some last => rfl

theorem contains_eq_true_iff :
    contains (pieces.filterMap attributeIn) key = true ↔
      ∃ piece ∈ pieces, piece.head? = some key := by
  rw [contains, List.any_eq_true]
  constructor
  · rintro ⟨found, member, own⟩
    obtain ⟨piece, there, gives⟩ := List.mem_filterMap.mp member
    obtain ⟨first, begins, rfl⟩ := Option.map_eq_some_iff.mp gives
    exact ⟨piece, there, begins.trans (congrArg some (of_decide_eq_true own))⟩
  · rintro ⟨piece, there, begins⟩
    refine ⟨⟨key, valueIn piece⟩, List.mem_filterMap.mpr ⟨piece, there, ?_⟩, decide_eq_true rfl⟩
    rw [attributeIn, begins, Option.map_some]

theorem contains_filterMap :
    contains (pieces.filterMap attributeIn) key = (lastWins pieces key).isSome := by
  rw [Bool.eq_iff_iff, contains_eq_true_iff, isSome_lastWins_iff]

theorem get?_eq_some_iff (formed : ∀ piece ∈ pieces, WellFormed piece) {value : String} :
    get? (pieces.filterMap attributeIn) key = some value ↔
      IsLast pieces key (key :: '=' :: value.toList) := by
  rw [get?_filterMap, Option.join_eq_some_iff, lastWins_eq_value_iff formed]

end Meaning

section Parsing

variable {text : String}

theorem parse_of_splitOn {pieces : List (List Char)} (split : text.toList.splitOn ',' = pieces)
    (formed : ∀ piece ∈ pieces, WellFormed piece) :
    parse text = .ok (pieces.filterMap attributeIn) := by
  rw [parse, segments_eq_splitOn, split,
    mapM_of_ok fun piece member => readSegment_of_wellFormed (formed piece member)]
  change Except.ok _ = _
  rw [List.filterMap_map]
  rfl

theorem parse_of_malformed {piece : List Char}
    (first : (text.toList.splitOn ',').find? (fun piece => ¬WellFormed piece) = some piece) :
    parse text = .error (.malformedAttributes (String.ofList piece)) := by
  obtain ⟨malformed, before, after, split, formed⟩ := List.find?_eq_some_iff_append.mp first
  rw [parse, segments_eq_splitOn, split, mapM_of_error
    (fun earlier member => readSegment_of_wellFormed (by simpa using formed earlier member))
    (readSegment_of_malformed (by simpa using malformed))]
  rfl

theorem parse_eq_ok_iff {attributes : Attributes} :
    parse text = .ok attributes ↔
      (∀ piece ∈ text.toList.splitOn ',', WellFormed piece) ∧
        attributes = (text.toList.splitOn ',').filterMap attributeIn := by
  cases first : (text.toList.splitOn ',').find? (fun piece => ¬WellFormed piece) with
  | none =>
      have formed : ∀ piece ∈ text.toList.splitOn ',', WellFormed piece := by
        simpa using first
      rw [parse_of_splitOn rfl formed, Except.ok.injEq]
      exact ⟨fun same => ⟨formed, same.symm⟩, fun both => both.2.symm⟩
  | some piece =>
      rw [parse_of_malformed first]
      have malformed : ¬WellFormed piece := by
        simpa using List.find?_some first
      exact ⟨nofun, fun both => absurd (both.1 piece (List.mem_of_find?_eq_some first)) malformed⟩

theorem parse_eq_error_iff {error : DriverError} :
    parse text = .error error ↔
      ∃ piece, (text.toList.splitOn ',').find? (fun piece => ¬WellFormed piece) = some piece ∧
        error = .malformedAttributes (String.ofList piece) := by
  constructor
  · intro failed
    cases first : (text.toList.splitOn ',').find? (fun piece => ¬WellFormed piece) with
    | none =>
        rw [parse_of_splitOn rfl (by simpa using first)] at failed
        cases failed
    | some piece =>
        rw [parse_of_malformed first] at failed
        cases failed
        exact ⟨piece, rfl, rfl⟩
  · rintro ⟨piece, first, rfl⟩
    exact parse_of_malformed first

theorem parse_intercalate {segments : List (List Char)}
    (formed : ∀ segment ∈ segments, WellFormed segment ∧ ',' ∉ segment) :
    ∃ attributes, parse (String.ofList ([','].intercalate segments)) = .ok attributes ∧
      ∀ key, attributes.contains key = (lastWins segments key).isSome ∧
        attributes.get? key = (lastWins segments key).join := by
  cases segments with
  | nil => exact ⟨[], rfl, fun key => ⟨rfl, rfl⟩⟩
  | cons first rest =>
      have pieces : (String.ofList ([','].intercalate (first :: rest))).toList.splitOn ',' =
          first :: rest := by
        rw [String.toList_ofList]
        exact List.splitOn_intercalate ',' (fun segment member => (formed segment member).2)
          (List.cons_ne_nil first rest)
      exact ⟨_, parse_of_splitOn pieces fun segment member => (formed segment member).1,
        fun key => ⟨contains_filterMap _ key, get?_filterMap _ key⟩⟩

end Parsing

/-- A text is read just when each of its pieces between commas is well formed. A key is given when
a piece begins with it, and its value is that of the last such piece. A text that is not read
fails with its first piece that is not well formed. -/
theorem parse_follows_grammar (text : String) :
    let pieces := text.toList.splitOn ','
    ((∃ attributes, parse text = .ok attributes) ↔ ∀ piece ∈ pieces, WellFormed piece) ∧
    (∀ attributes, parse text = .ok attributes → ∀ key,
      (attributes.contains key = true ↔ ∃ piece ∈ pieces, piece.head? = some key) ∧
      (∀ value, attributes.get? key = some value ↔
        IsLast pieces key (key :: '=' :: value.toList)) ∧
      (IsLast pieces key [key] → attributes.get? key = none)) ∧
    (∀ error, parse text = .error error ↔
      ∃ piece, pieces.find? (fun piece => ¬WellFormed piece) = some piece ∧
        error = .malformedAttributes (String.ofList piece)) ∧
    ∀ segments : List (List Char), (∀ segment ∈ segments, WellFormed segment ∧ ',' ∉ segment) →
      ∃ attributes, parse (String.ofList ([','].intercalate segments)) = .ok attributes ∧
        ∀ key, attributes.contains key = (lastWins segments key).isSome ∧
          attributes.get? key = (lastWins segments key).join := by
  intro pieces
  refine ⟨?_, ?_, fun error => parse_eq_error_iff, fun segments => parse_intercalate⟩
  · constructor
    · rintro ⟨attributes, parsed⟩
      exact (parse_eq_ok_iff.mp parsed).1
    · intro formed
      exact ⟨_, parse_of_splitOn rfl formed⟩
  · intro attributes parsed key
    obtain ⟨formed, rfl⟩ := parse_eq_ok_iff.mp parsed
    refine ⟨contains_eq_true_iff _ key, fun value => get?_eq_some_iff _ key formed, fun bare => ?_⟩
    rw [get?_filterMap, lastWins_of_isLast bare]
    rfl

/-- A key that is no letter of ASCII, the equals sign as a key, and a key that takes its value back
behind an empty piece. -/
theorem parse_follows_grammar_overridden :
    let segments : List (List Char) :=
      [['é', '=', '1'], ['=', '=', '=', 'x'], ['r', '=', 'a'], [], ['r']]
    "é=1,===x,r=a,,r".toList.splitOn ',' = segments ∧
    (∃ attributes, parse "é=1,===x,r=a,,r" = .ok attributes ∧
      attributes.get? 'é' = some "1" ∧ attributes.get? '=' = some "=x" ∧
      attributes.contains 'r' = true ∧ attributes.get? 'r' = none) ∧
    ∃ attributes, parse (String.ofList ([','].intercalate segments)) = .ok attributes ∧
      attributes.contains 'r' = true ∧ attributes.get? 'r' = none := by
  intro segments
  have pieces : "é=1,===x,r=a,,r".toList.splitOn ',' = segments := by decide +kernel
  obtain ⟨reads, meaning, _, joins⟩ := parse_follows_grammar "é=1,===x,r=a,,r"
  rw [pieces] at reads meaning
  refine ⟨pieces, ?_, ?_⟩
  · obtain ⟨attributes, parsed⟩ := reads.mpr (by decide)
    refine ⟨attributes, parsed, ((meaning attributes parsed 'é').2.1 "1").mpr ?_,
      ((meaning attributes parsed '=').2.1 "=x").mpr ?_, (meaning attributes parsed 'r').1.mpr ?_,
      (meaning attributes parsed 'r').2.2 ?_⟩
    · exact ⟨[], _, rfl, rfl, by decide⟩
    · exact ⟨[_], _, rfl, rfl, by decide⟩
    · exact ⟨['r'], by decide, rfl⟩
    · exact ⟨[_, _, _, _], [], rfl, rfl, by decide⟩
  · obtain ⟨attributes, parsed, agrees⟩ := joins segments (by decide)
    exact ⟨attributes, parsed, (agrees 'r').1.trans (by decide), (agrees 'r').2.trans (by decide)⟩

end Attributes

end QueryDriver.Scram
