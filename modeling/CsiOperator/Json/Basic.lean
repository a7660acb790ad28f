import CsiOperator.Decimal.Shortest

/-! The values of JSON. -/

namespace CsiOperator

/-- A number is an integer or a finite double. -/
inductive Number where
  /-- An integer in the range of 64 bits, signed or not. -/
  | integer (value : Int)
  /-- A number that was written with a fraction or an exponent, or that is too long for 64 bits. -/
  | real (value : Decimal.Binary64)
  deriving DecidableEq, Repr, Inhabited

/-- The digits of a number. -/
def Number.text : Number → String
  -- An integer has no point, and so it is told from a double of the same value.
  | .integer n => Text.signed n
  | .real x => x.text

/-- A JSON value; the entries of an object stand in the order in which they were put there. -/
inductive Json where
  /-- The absent value. -/
  | null
  /-- A truth value. -/
  | bool (value : Bool)
  /-- A number. -/
  | number (value : Number)
  /-- A text. -/
  | text (value : String)
  /-- A list of values. -/
  | array (items : List Json)
  /-- A list of named values. -/
  | object (entries : List (String × Json))
  deriving Repr, Inhabited

namespace Json

/-- An integer as a value. -/
def integer (n : Int) : Json :=
  .number (.integer n)

/-- A list of texts as a value. -/
def texts (items : List String) : Json :=
  .array (items.map .text)

/-- An optional text; absence is null. -/
def optionalText : Option String → Json
  -- Absence is written out here rather than left away.
  | none => .null
  | some s => .text s

/-- An object of the fields that are present. -/
def record (fields : List (String × Option Json)) : Json :=
  .object (fields.filterMap fun (key, value) => value.map (key, ·))

/-- A list of named texts as an object. -/
def textMap (entries : List (String × String)) : Json :=
  .object (entries.map fun (key, value) => (key, .text value))

/-- Entries sorted by key, where a new entry takes the place of one with its key. -/
def insertEntry {α : Type} (key : String) (value : α) : List (String × α) → List (String × α)
  -- Keys stay in order, and each of them stays single.
  | [] => [(key, value)]
  | (k, v) :: rest =>
    if key < k then (key, value) :: (k, v) :: rest
    else if key == k then (key, value) :: rest
    else (k, v) :: insertEntry key value rest

/-- Entries sorted by key, of which the last one with each key counts. -/
def sortEntries {α : Type} (entries : List (String × α)) : List (String × α) :=
  entries.foldl (fun sorted (key, value) => insertEntry key value sorted) []

/-- The value of a key, if the value is an object that has it. -/
def get? (key : String) : Json → Option Json
  | .object entries => entries.lookup key
  | _ => none

/-- The text, if the value is one. -/
def text? : Json → Option String
  | .text s => some s
  | _ => none

/-- The integer, if the value is one. -/
def integer? : Json → Option Int
  | .number (.integer n) => some n
  | _ => none

/-- The truth value, if the value is one. -/
def bool? : Json → Option Bool
  | .bool b => some b
  | _ => none

/-- The items, if the value is a list. -/
def items? : Json → Option (List Json)
  | .array items => some items
  | _ => none

/-- The entries, if the value is an object. -/
def entries? : Json → Option (List (String × Json))
  | .object entries => some entries
  | _ => none

end Json

end CsiOperator
