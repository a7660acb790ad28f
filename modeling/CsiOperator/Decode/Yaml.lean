import CsiOperator.Decode.Source
import CsiOperator.Yaml.Scalar
import CsiOperator.Yaml.Tree
import CsiOperator.Yaml.Value

/-! Typed values from YAML text. -/

namespace CsiOperator.Yaml.Tree

open Decode

/-- The fault of a node that has the wrong shape. -/
def mismatch : Tree → Fault
  -- What cannot be read at all is no question of its shape.
  | .cut => .other
  | .void => .other
  | .scalar s => s.mismatch
  | .repeated t => t.mismatch
  | _ => .invalidType

/-- A text is any scalar, whatever it would mean. -/
def readText : Tree → Read String
  -- Numbers and words for truth values are texts, too, where a text is wanted.
  | .scalar s => .ok s.text
  | .repeated t => t.readText
  | t => .error t.mismatch

/-- A truth value is a plain word for one. -/
def readTruth : Tree → Read Bool
  -- In quotes a word is a text and nothing else.
  | .scalar s =>
    match Meaning.truth? s.text.toList with
    | some b => if s.plain then .ok b else .error s.mismatch
    | none => .error s.mismatch
  | .repeated t => t.readTruth
  | t => .error t.mismatch

/-- An integer is plain digits for one. -/
def readInteger : Tree → Read Int
  | .scalar s =>
    match Meaning.signed? s.text.toList with
    | some n => if s.plain then .ok n else .error s.mismatch
    | none => .error s.mismatch
  | .repeated t => t.readInteger
  | t => .error t.mismatch

/-- Nothing and the plain words for null are nothing. -/
def readOptional : Tree → Read (Option Tree)
  -- Quotes make a text of the word for null, and a tag may ask for null and nothing else.
  | .void => .ok none
  | .repeated t => t.readOptional
  | .scalar s =>
    let null := Meaning.isNull s.text.toList
    if !s.plain then .ok (some (.scalar s))
    else match s.tag with
    | none => .ok (if s.text.isEmpty || null then none else some (.scalar s))
    | some tag =>
      if tag != Scalar.coreTag "null" then .ok (some (.scalar s))
      else if null then .ok none
      else .error .other
  | t => .ok (some t)

/-- The items of a list that is not too deep; nothing at all is an empty list. -/
def readItems : Tree → Read (List Tree)
  | .list _ items => .ok items
  | .deep _ => .error .other
  | .void => .ok []
  | .scalar s => if s.isVoid then .ok [] else .error s.mismatch
  | .repeated t => t.readItems
  | t => .error t.mismatch

/-- The entries of a map that is not too deep; nothing at all is an empty map. -/
def readEntries : Tree → Read (List (Tree × Tree))
  | .mapping _ entries => .ok entries
  | .deep _ => .error .other
  | .void => .ok []
  | .scalar s => if s.isVoid then .ok [] else .error s.mismatch
  | .repeated t => t.readEntries
  | t => .error t.mismatch

/-- A structured value is a map. -/
def readParts (t : Tree) : Read (Parts Tree) := do
  return .named (← t.readEntries)

/-- A name stands alone, or as the tag of a null scalar. -/
def readVariant {α : Type} (choose : String → Option α) : Tree → Read α
  -- A tag of the document's own names the choice, and its content has to be nothing.
  | .scalar s =>
    match Scalar.localTag? s.tag with
    | none => pick s.text
    | some name => do
      let chosen ← pick name
      if s.plain && (s.text.isEmpty || Meaning.isNull s.text.toList) then .ok chosen
      else .error .other
  | .list tag _ => tagged tag
  | .mapping tag _ => tagged tag
  | .repeated t => t.readVariant choose
  | t => .error t.mismatch
where
  /-- The choice that a name stands for. -/
  pick (name : String) : Read α :=
    match choose name with
    | some chosen => .ok chosen
    | none => .error .unknownVariant
  /-- A list or map is the wrong content for any name. -/
  tagged (tag : Option String) : Read α :=
    match Scalar.localTag? tag with
    | none => .error .invalidType
    | some name => do
      let _ ← pick name
      .error .invalidType

/-- The JSON value of a number or a word; numbers that are not finite are null. -/
def ofMeaning : Meaning → Read Json
  -- An integer that 64 bits cannot hold is known to be one, but it has no value here.
  | .null => .ok .null
  | .bool b => .ok (.bool b)
  | .integer n => .ok (.number (.integer n))
  | .wideInteger => .error .invalidType
  | .real (some x) => .ok (.number (.real x))
  | .real none => .ok .null
  | .text s => .ok (.text s)

/-- A tag of the document's own has no place in a value of any shape. -/
def untagged (tag : Option String) : Read Unit :=
  if (Scalar.localTag? tag).isSome then .error .invalidType else .ok ()

mutual

/-- A value of any shape, its maps sorted by key. -/
def readAny : Tree → Read Json
  -- A tag of the document's own is refused before anything behind it is read.
  | .scalar s => do
    untagged s.tag
    ofMeaning (← s.meaning)
  | .list tag items => do
    untagged tag
    return .array (← readAnyItems items)
  | .mapping tag entries => do
    untagged tag
    return .object (Json.sortEntries (← readAnyEntries entries))
  | .repeated t => readAny t
  | _ => .error .other

/-- The items of a list, each of any shape. -/
def readAnyItems : List Tree → Read (List Json)
  -- The first fault ends the reading, whatever the items behind it are.
  | [] => .ok []
  | t :: rest => do return (← readAny t) :: (← readAnyItems rest)

/-- The entries of a map, each of any shape. -/
def readAnyEntries : List (Tree × Tree) → Read (List (String × Json))
  | [] => .ok []
  | (key, value) :: rest => do
    let key ← readText key
    let value ← readAny value
    return (key, value) :: (← readAnyEntries rest)

end

/-- A tag of the document's own says more than a value without a type can hold. -/
def plainTag (tag : Option String) : Read Unit :=
  if (Scalar.localTag? tag).isSome then .error .other else .ok ()

/-- The value of a number or a word. -/
def valueOfMeaning : Meaning → Read Value
  -- Numbers that are not finite are kept apart from null, which they become in JSON only.
  | .null => .ok .null
  | .bool b => .ok (.bool b)
  | .integer n => .ok (.number (.integer n))
  | .wideInteger => .error .invalidType
  | .real (some x) => .ok (.number (.real x))
  | .real none => .ok .infinite
  | .text s => .ok (.text s)

mutual

/-- A value without a type. -/
def readUntyped : Tree → Read Value
  -- A tag of the document's own is refused before anything behind it is read.
  | .scalar s => do
    plainTag s.tag
    valueOfMeaning (← s.meaning)
  | .list tag items => do
    plainTag tag
    return .list (← readUntypedItems items)
  | .mapping tag entries => do
    plainTag tag
    return .mapping (← readUntypedEntries entries)
  | .repeated t => readUntyped t
  | _ => .error .other

/-- The items of a list without types. -/
def readUntypedItems : List Tree → Read (List Value)
  | [] => .ok []
  | t :: rest => do return (← readUntyped t) :: (← readUntypedItems rest)

/-- The entries of a map without types. -/
def readUntypedEntries : List (Tree × Tree) → Read (List (Value × Value))
  -- A key may be any value; whether it is a text is asked when it becomes JSON.
  | [] => .ok []
  | (key, value) :: rest => do
    let key ← readUntyped key
    let value ← readUntyped value
    return (key, value) :: (← readUntypedEntries rest)

end

mutual

/-- Whether the text breaks off inside a node; what an alias repeats is not looked at. -/
def isBroken : Tree → Bool
  -- A list or a map is broken wherever one of its parts is.
  | .cut => true
  | .deep broken => broken
  | .list _ items => anyTreeBroken items
  | .mapping _ entries => anyPairBroken entries
  | _ => false

/-- Whether the text breaks off inside one of the nodes. -/
def anyTreeBroken : List Tree → Bool
  | [] => false
  | t :: rest => t.isBroken || anyTreeBroken rest

/-- Whether the text breaks off inside one of the entries. -/
def anyPairBroken : List (Tree × Tree) → Bool
  | [] => false
  | (key, value) :: rest => key.isBroken || value.isBroken || anyPairBroken rest

end

/-- A node that is passed over only has to keep to the grammar. -/
def readNothing (t : Tree) : Read Unit :=
  if t.isBroken then .error .other else .ok ()

instance : Source Tree where
  text := readText
  truth := readTruth
  integer := readInteger
  optional := readOptional
  items := readItems
  entries := readEntries
  parts := readParts
  variant := readVariant
  any := readAny
  untyped t := (readUntyped t).map Value.toJson
  skip := readNothing

end CsiOperator.Yaml.Tree

namespace CsiOperator.Yaml

open Decode

/-- Reads the only document of a text; anything that follows it is a fault that comes last. -/
def decode {α : Type} (read : Tree → Read α) (text : String) : Read α := do
  -- The value is read before anything behind it is found at fault.
  let document := Document.ofText text
  let value ← read (Tree.ofDocument document)
  if document.complete then .ok value else .error .other

end CsiOperator.Yaml
