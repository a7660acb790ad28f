import CsiOperator.Decode.Fault
import CsiOperator.Json.Basic

/-! YAML values without types, whose keys may be anything. -/

namespace CsiOperator.Yaml

/-- A value without a type. -/
inductive Value where
  /-- The absent value. -/
  | null
  /-- A truth value. -/
  | bool (value : Bool)
  /-- A finite number. -/
  | number (value : Number)
  /-- A number that is infinite or none at all. -/
  | infinite
  /-- A text. -/
  | text (value : String)
  /-- A list. -/
  | list (items : List Value)
  /-- A map. -/
  | mapping (entries : List (Value × Value))
  deriving Repr, Inhabited

namespace Value

mutual

/-- The JSON value, in which every key has to be a text; numbers that are not finite are null. -/
def toJson : Value → Except Decode.Fault Json
  -- JSON has no infinity and no number that is none, so they become null.
  | .null => .ok .null
  | .bool b => .ok (.bool b)
  | .number n => .ok (.number n)
  | .infinite => .ok .null
  | .text s => .ok (.text s)
  | .list items => do return .array (← itemsToJson items)
  | .mapping entries => do return .object (Json.sortEntries (← entriesToJson entries))

/-- The JSON values of the items of a list. -/
def itemsToJson : List Value → Except Decode.Fault (List Json)
  | [] => .ok []
  | v :: rest => do return (← toJson v) :: (← itemsToJson rest)

/-- The JSON values of the entries of a map. -/
def entriesToJson : List (Value × Value) → Except Decode.Fault (List (String × Json))
  -- The key is looked at before its value.
  | [] => .ok []
  | (key, value) :: rest => do
    let key ← match key with
      | .text s => .ok s
      | _ => .error .invalidType
    let value ← toJson value
    return (key, value) :: (← entriesToJson rest)

end

end Value

end CsiOperator.Yaml
