import Mathlib.Data.List.Nodup
import Mathlib.Data.List.Perm.Subperm
import QueryDriver.Members

/-!
What members are kept when pairs are collected. It depends on the keys alone which those are, so
collecting commutes with any change of the values. What is collected ascends by key, with the value
of the last pair under each, and members that ascend are what collecting them gives.
-/

namespace QueryDriver

theorem subperm_flatMap {α β : Type} {first second : List α} (kept : first.Subperm second)
    (expand : α → List β) : (first.flatMap expand).Subperm (second.flatMap expand) := by
  obtain ⟨middle, same, part⟩ := kept
  refine ((same.flatMap_right expand).symm.subperm).trans (List.Sublist.subperm ?_)
  clear same
  induction part with
  | slnil => exact .slnil
  | cons item _ ih => exact ih.trans (List.sublist_append_right _ _)
  | cons_cons item _ ih => exact ih.append_left _

namespace Members

variable {α β : Type}

theorem insert_subperm (key : String) (value : α) (members : Members α) :
    (members.insert key value).Subperm ((key, value) :: members) := by
  induction members with
  | nil => exact List.Subperm.refl _
  | cons first rest ih =>
      rw [insert]
      split
      · exact List.Subperm.refl _
      · split
        · exact List.Sublist.subperm ((List.sublist_cons_self first rest).cons_cons _)
        · exact ((List.subperm_cons first).mpr ih).trans (List.Perm.swap _ _ rest).subperm

theorem forall_insert {holds : α → Prop} {members : Members α}
    (each : ∀ member ∈ members, holds member.2) (key : String) {value : α}
    (held : holds value) : ∀ member ∈ members.insert key value, holds member.2 := by
  intro member isMember
  rcases List.mem_cons.mp ((insert_subperm key value members).subset isMember) with rfl | kept
  · exact held
  · exact each member kept

theorem insert_map (change : α → β) (key : String) (value : α) (members : Members α) :
    (members.insert key value).map (fun member => (member.1, change member.2)) =
      Members.insert key (change value)
        (members.map fun member => (member.1, change member.2)) := by
  induction members with
  | nil => rfl
  | cons first rest ih =>
      rw [List.map_cons, insert, insert]
      split
      · rfl
      · split
        · rfl
        · rw [List.map_cons, ih]

theorem foldl_insert_subperm (pairs : List (String × α)) (members : Members α) :
    (pairs.foldl (fun members pair => members.insert pair.1 pair.2) members).Subperm
      (members ++ pairs) := by
  induction pairs generalizing members with
  | nil => exact (List.append_nil members).symm ▸ List.Subperm.refl _
  | cons pair rest ih =>
      refine (ih (members.insert pair.1 pair.2)).trans ?_
      refine ((List.subperm_append_right rest).mpr (insert_subperm pair.1 pair.2 members)).trans ?_
      exact List.perm_middle.symm.subperm

theorem ofPairs_subperm (pairs : List (String × α)) : (ofPairs pairs).Subperm pairs :=
  foldl_insert_subperm pairs []

theorem ofPairs_map (change : α → β) (pairs : List (String × α)) :
    (ofPairs pairs).map (fun member => (member.1, change member.2)) =
      ofPairs (pairs.map fun pair => (pair.1, change pair.2)) := by
  have collected (members : Members α) :
      (pairs.foldl (fun members pair => members.insert pair.1 pair.2) members).map
          (fun member => (member.1, change member.2)) =
        (pairs.map fun pair => (pair.1, change pair.2)).foldl
          (fun (members : Members β) pair => members.insert pair.1 pair.2)
          (members.map fun member => (member.1, change member.2)) := by
    induction pairs generalizing members with
    | nil => rfl
    | cons pair rest ih =>
        rw [List.foldl_cons, ih, insert_map]
        rfl
  exact collected []

def Ascending (members : Members α) : Prop :=
  members.Pairwise fun first second => first.1 < second.1

theorem Ascending.insert {members : Members α} (ascending : members.Ascending) (key : String)
    (value : α) : (members.insert key value).Ascending := by
  induction members with
  | nil => exact List.pairwise_singleton _ _
  | cons first rest ih =>
      obtain ⟨below, others⟩ := List.pairwise_cons.mp ascending
      rw [Members.insert]
      by_cases less : key < first.1
      · rw [if_pos less]
        refine List.pairwise_cons.mpr ⟨?_, ascending⟩
        intro member isMember
        rcases List.mem_cons.mp isMember with rfl | later
        · exact less
        · exact String.lt_trans less (below member later)
      · rw [if_neg less]
        by_cases same : key = first.1
        · subst same
          rw [if_pos rfl]
          exact List.pairwise_cons.mpr ⟨below, others⟩
        · rw [if_neg same]
          have above : first.1 < key := Std.lt_of_le_of_ne (String.not_lt.mp less) (Ne.symm same)
          refine List.pairwise_cons.mpr ⟨?_, ih others⟩
          intro member isMember
          rcases List.mem_cons.mp ((insert_subperm key value rest).subset isMember) with rfl | kept
          · exact above
          · exact below member kept

theorem ofPairs_ascending (pairs : List (String × α)) : (ofPairs pairs).Ascending := by
  have collected (members : Members α) (ascending : members.Ascending) :
      (pairs.foldl (fun members pair => members.insert pair.1 pair.2) members).Ascending := by
    induction pairs generalizing members with
    | nil => exact ascending
    | cons pair rest ih => exact ih _ (ascending.insert pair.1 pair.2)
  exact collected [] List.Pairwise.nil

theorem insert_comm {first second : String} (other : first ≠ second) (value held : α)
    (members : Members α) :
    (members.insert second held).insert first value =
      (members.insert first value).insert second held := by
  induction members with
  | nil => grind [insert]
  | cons member rest ih => grind [insert]

theorem ofPairs_perm {pairs others : List (String × α)} (same : pairs.Perm others)
    (distinct : (keys pairs).Nodup) : ofPairs pairs = ofPairs others := by
  refine same.foldl_eq' ?_ []
  intro first isMember second isOther members
  by_cases sameKey : first.1 = second.1
  · rw [List.inj_on_of_nodup_map distinct isMember isOther sameKey]
  · exact insert_comm (Ne.symm sameKey) second.2 first.2 members

theorem insert_above {key : String} {value : α} {members : Members α}
    (above : ∀ member ∈ members, member.1 < key) :
    members.insert key value = members ++ [(key, value)] := by
  induction members with
  | nil => rfl
  | cons first rest ih =>
      obtain ⟨less, others⟩ := List.forall_mem_cons.mp above
      have other : key ≠ first.1 := fun same => String.lt_irrefl _ (same ▸ less)
      rw [insert, if_neg (String.lt_asymm less), if_neg other, ih others, List.cons_append]

theorem Ascending.ofPairs_eq {members : Members α} (ascending : members.Ascending) :
    ofPairs members = members := by
  -- the members collected so far are those in front
  have collected (front rest : Members α) (ascending : (front ++ rest).Ascending) :
      rest.foldl (fun members pair => members.insert pair.1 pair.2) front = front ++ rest := by
    induction rest generalizing front with
    | nil => exact (List.append_nil front).symm
    | cons pair rest ih =>
        have above : ∀ member ∈ front, member.1 < pair.1 := fun member isMember =>
          (List.pairwise_append.mp ascending).2.2 member isMember pair List.mem_cons_self
        rw [List.foldl_cons, insert_above above, ih, List.append_assoc, List.singleton_append]
        rwa [List.append_assoc, List.singleton_append]
  exact collected [] members ascending

theorem get?_insert (key other : String) (value : α) (members : Members α) :
    (members.insert key value).get? other =
      if other = key then some value else members.get? other := by
  induction members with
  | nil => rfl
  | cons first rest ih =>
      rw [insert]
      split
      · rfl
      · split
        · rename_i same
          subst same
          simp only [get?]
          split <;> rfl
        · rename_i different
          simp only [get?, ih]
          by_cases found : other = first.1
          · have unlike : other ≠ key := fun same => different (same ▸ found)
            rw [if_pos found, if_neg unlike, if_pos found]
          · rw [if_neg found, if_neg found]

/-- The value of the last pair with a key. -/
def last? (key : String) (pairs : List (String × α)) : Option α :=
  ((pairs.filter fun pair => pair.1 = key).getLast?).map Prod.snd

theorem last?_append (key : String) (first second : List (String × α)) :
    last? key (first ++ second) = (last? key second).or (last? key first) := by
  rw [last?, List.filter_append, List.getLast?_append, Option.map_or]
  rfl

theorem last?_cons (key : String) (pair : String × α) (rest : List (String × α)) :
    last? key (pair :: rest) =
      (last? key rest).or (if pair.1 = key then some pair.2 else none) := by
  rw [← List.singleton_append, last?_append]
  congr 1
  by_cases same : pair.1 = key
  · rw [last?, List.filter_cons_of_pos (by simpa using same), if_pos same]
    rfl
  · rw [last?, List.filter_cons_of_neg (by simpa using same), if_neg same]
    rfl

theorem last?_of_mem_keys {key : String} {pairs : List (String × α)} (given : key ∈ keys pairs) :
    ∃ value, last? key pairs = some value := by
  obtain ⟨pair, member, same⟩ := List.mem_map.mp given
  have kept : (pairs.filter fun pair => pair.1 = key) ≠ [] :=
    List.ne_nil_of_mem (List.mem_filter.mpr ⟨member, by simpa using same⟩)
  rw [last?, List.getLast?_eq_some_getLast kept]
  exact ⟨_, rfl⟩

/-- What has been collected under a key is the value of the last pair with that key. -/
theorem get?_ofPairs (pairs : List (String × α)) (key : String) :
    (ofPairs pairs).get? key = last? key pairs := by
  have collected (members : Members α) :
      (pairs.foldl (fun members pair => members.insert pair.1 pair.2) members).get? key =
        (last? key pairs).or (members.get? key) := by
    induction pairs generalizing members with
    | nil => rfl
    | cons pair rest ih =>
        rw [List.foldl_cons, ih, get?_insert, last?_cons, Option.or_assoc]
        by_cases same : pair.1 = key
        · rw [if_pos same, if_pos same.symm]
          rfl
        · rw [if_neg same, if_neg (Ne.symm same)]
          rfl
  rw [ofPairs, collected []]
  exact Option.or_none

theorem get?_of_below {key : String} {members : Members α}
    (below : ∀ member ∈ members, key < member.1) : members.get? key = none := by
  induction members with
  | nil => rfl
  | cons first rest ih =>
      obtain ⟨less, others⟩ := List.forall_mem_cons.mp below
      have other : key ≠ first.1 := fun same => String.lt_irrefl _ (same ▸ less)
      rw [get?, if_neg other, ih others]

theorem Ascending.first_le {key : String} {value : α} {first : String × α} {rest : Members α}
    (ascending : Ascending (first :: rest)) (found : get? key (first :: rest) = some value) :
    first.1 ≤ key := by
  apply String.not_lt.mp
  intro less
  have below : ∀ member ∈ first :: rest, key < member.1 := List.forall_mem_cons.mpr
    ⟨less, fun member later =>
      String.lt_trans less ((List.pairwise_cons.mp ascending).1 member later)⟩
  rw [get?_of_below below] at found
  cases found

/-- Members that ascend are told apart by what is under their keys. -/
theorem Ascending.ext {members others : Members α} (ascending : members.Ascending)
    (otherAscending : others.Ascending) (same : ∀ key, members.get? key = others.get? key) :
    members = others := by
  have under (first : String × α) (rest : Members α) : get? first.1 (first :: rest) = some first.2 :=
    if_pos rfl
  induction members generalizing others with
  | nil =>
      cases others with
      | nil => rfl
      | cons other behind => exact nomatch (same other.1).trans (under other behind)
  | cons first rest ih =>
      cases others with
      | nil => exact nomatch (same first.1).symm.trans (under first rest)
      | cons other behind =>
          have found := (same first.1).symm.trans (under first rest)
          have key : first.1 = other.1 := String.le_antisymm
            (ascending.first_le ((same other.1).trans (under other behind)))
            (otherAscending.first_le found)
          rw [key, under other behind] at found
          obtain ⟨below, restAscending⟩ := List.pairwise_cons.mp ascending
          obtain ⟨otherBelow, behindAscending⟩ := List.pairwise_cons.mp otherAscending
          have rests : rest = behind := by
            apply ih restAscending behindAscending
            intro name
            by_cases isKey : name = first.1
            · rw [isKey, get?_of_below below, key, get?_of_below otherBelow]
            · have later := same name
              rwa [get?, get?, if_neg isKey, if_neg (key ▸ isKey)] at later
          rw [rests]
          exact congrArg (· :: behind) (Prod.ext key (Option.some.inj found).symm)

end Members

end QueryDriver
