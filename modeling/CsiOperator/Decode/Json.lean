import CsiOperator.Decimal.Width
import CsiOperator.Decode.Source
import CsiOperator.Json.Tree

/-! Typed values from JSON text. -/

namespace CsiOperator.Json.Tree

open Decode

/-- The fault of a node that has the wrong shape. -/
def mismatch : Tree → Fault
  -- What cannot be read at all is no question of its shape.
  | .cut => .other
  | .number none => .other
  | .text none => .other
  | _ => .invalidType

/-- A string. -/
def readText : Tree → Read String
  -- A text whose escapes do not stand for characters has none.
  | .text (some s) => .ok s
  | t => .error t.mismatch

/-- A truth value. -/
def readTruth : Tree → Read Bool
  -- A word in quotes is no truth value.
  | .bool b => .ok b
  | t => .error t.mismatch

/-- An integer of 64 bits with a sign. -/
def readInteger : Tree → Read Int
  -- A number with a fraction has the wrong shape, and one beyond the range has not.
  | .number (some (.integer n)) => if Decimal.fitsSigned 64 n then .ok n else .error .other
  | t => .error t.mismatch

/-- Null is nothing. -/
def readOptional : Tree → Read (Option Tree)
  -- Only null itself is nothing; an empty text is a value.
  | .null => .ok none
  | t => .ok (some t)

/-- The items of a list that is not too deep. -/
def readItems : Tree → Read (List Tree)
  -- A list beyond the depth limit is not looked into.
  | .array items => .ok items
  | .deep _ => .error .other
  | t => .error t.mismatch

/-- The entries of an object that is not too deep. -/
def readEntries : Tree → Read (List (Tree × Tree))
  | .object entries => .ok entries
  | .deep _ => .error .other
  | t => .error t.mismatch

/-- The parts of an object or a list. -/
def readParts : Tree → Read (Parts Tree)
  -- A list is taken for the parts in their order.
  | .object entries => .ok (.named entries)
  | .array items => .ok (.positional items)
  | .deep _ => .error .other
  | t => .error t.mismatch

/-- A name stands alone, or as the only key of an object whose value is null. -/
def readVariant {α : Type} (choose : String → Option α) : Tree → Read α
  -- A name may also be the key of an object, as where it could have a value with it.
  | .text (some s) => pick s
  | .object ((key, value) :: rest) => do
    let chosen ← pick (← readText key)
    match value with
    | .null => if rest.isEmpty then .ok chosen else .error .other
    | t => .error t.mismatch
  | _ => .error .other
where
  /-- The choice that a name stands for. -/
  pick (name : String) : Read α :=
    match choose name with
    | some chosen => .ok chosen
    | none => .error .unknownVariant

mutual

/-- A value of any shape, its objects sorted by key. -/
def readAny : Tree → Read Json
  -- The entries of an object are held in the order of their keys.
  | .null => .ok .null
  | .bool b => .ok (.bool b)
  | .number (some n) => .ok (.number n)
  | .text (some s) => .ok (.text s)
  | .array items => do return .array (← readAnyItems items)
  | .object entries => do return .object (sortEntries (← readAnyEntries entries))
  | _ => .error .other

/-- The items of a list, each of any shape. -/
def readAnyItems : List Tree → Read (List Json)
  -- The first fault ends the reading, whatever the items behind it are.
  | [] => .ok []
  | t :: rest => do return (← readAny t) :: (← readAnyItems rest)

/-- The entries of an object, each of any shape. -/
def readAnyEntries : List (Tree × Tree) → Read (List (String × Json))
  | [] => .ok []
  | (key, value) :: rest => do
    let key ← readText key
    let value ← readAny value
    return (key, value) :: (← readAnyEntries rest)

end

mutual

/-- Whether the text breaks off inside a node. -/
def isBroken : Tree → Bool
  -- A list or an object is broken wherever one of its parts is.
  | .cut => true
  | .deep broken => broken
  | .array items => anyBroken items
  | .object entries => anyEntryBroken entries
  | _ => false

/-- Whether the text breaks off inside one of the nodes. -/
def anyBroken : List Tree → Bool
  | [] => false
  | t :: rest => t.isBroken || anyBroken rest

/-- Whether the text breaks off inside one of the entries. -/
def anyEntryBroken : List (Tree × Tree) → Bool
  | [] => false
  | (key, value) :: rest => key.isBroken || value.isBroken || anyEntryBroken rest

end

/-- A node that is passed over only has to keep to the grammar. -/
def readNothing (t : Tree) : Read Unit :=
  if t.isBroken then .error .other else .ok ()

instance : Source Tree where
  text := readText
  truth := readTruth
  integer := readInteger
  optional := readOptional
  items := readItems
  entries := readEntries
  parts := readParts
  variant := readVariant
  any := readAny
  untyped t := (readAny t).map .ok
  skip := readNothing

end CsiOperator.Json.Tree

namespace CsiOperator.Json

open Decode

/-- Reads a whole text; anything after its value is a fault that comes last. -/
def decode {α : Type} (read : Tree → Read α) (text : String) : Read α := do
  -- The value is read before anything behind it is found at fault.
  let document := Document.ofText text
  let value ← read document.root
  if document.complete then .ok value else .error .other

/-- The value that a text holds. -/
def parse (text : String) : Read Json :=
  decode Tree.readAny text

end CsiOperator.Json
