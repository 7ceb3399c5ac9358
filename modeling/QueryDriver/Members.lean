/-!
Member lists: association lists kept in ascending order of their keys, one entry for each key.
Objects of every kind (documents, options, host objects) are stored in this form, so that two
objects with the same members are the same list.
-/

namespace QueryDriver

abbrev Members (α : Type) := List (String × α)

namespace Members

/-- Puts a value under a key; a value already under that key is replaced. -/
def insert {α : Type} (key : String) (value : α) : Members α → Members α
  | [] => [(key, value)]
  | (other, found) :: rest =>
      if key < other then (key, value) :: (other, found) :: rest
      else if key = other then (key, value) :: rest
      else (other, found) :: insert key value rest

/-- Collects pairs given in any order; of two pairs with the same key the later one stays. -/
def ofPairs {α : Type} (pairs : List (String × α)) : Members α :=
  pairs.foldl (fun members pair => members.insert pair.1 pair.2) []

def get? {α : Type} (key : String) : Members α → Option α
  | [] => none
  | (other, found) :: rest => if key = other then some found else get? key rest

def keys {α : Type} (members : Members α) : List String :=
  members.map (·.1)

end Members

end QueryDriver
