import CsiOperator.Json.Basic

/-! Merging changes into values. -/

namespace CsiOperator.Json

/-- The entries with one more, which takes the place of one with its key. -/
def setEntry (key : String) (value : Json) : List (String × Json) → List (String × Json)
  -- The place of an entry does not change with its value.
  | [] => [(key, value)]
  | (k, v) :: rest => if k == key then (key, value) :: rest else (k, v) :: setEntry key value rest

/-- The entries without one. -/
def dropEntry (key : String) (entries : List (String × Json)) : List (String × Json) :=
  entries.filter fun (k, _) => k != key

mutual

/-- A value with a change merged in: an object changes entry by entry, and anything else takes the
place of what was there. -/
def merge (target : Option Json) : Json → Json
  -- Where there is no object to change, the change is made to an empty one.
  | .object changes => .object (mergeEntries ((target.bind entries?).getD []) changes)
  | other => other

/-- Entries with changes merged in; null takes an entry away. -/
def mergeEntries (target : List (String × Json)) : List (String × Json) → List (String × Json)
  -- Changes are made one after another, so a later one sees what an earlier one has left.
  | [] => target
  | (key, .null) :: rest => mergeEntries (dropEntry key target) rest
  | (key, change) :: rest =>
    mergeEntries (setEntry key (merge (target.lookup key) change) target) rest

end

end CsiOperator.Json
