import CsiOperator.Decode.Fault
import CsiOperator.Json.Basic

/-! Reading typed values from documents, whatever their format. -/

namespace CsiOperator.Decode

/-- The outcome of a reading. -/
abbrev Read (α : Type) := Except Fault α

/-- The parts of a structured value: by name, or in the order of its fields. -/
inductive Parts (ν : Type) where
  /-- Keys and values in the order of the document. -/
  | named (entries : List (ν × ν))
  /-- Values alone. -/
  | positional (items : List ν)

/-- Nodes of a document from which typed values are read. -/
class Source (ν : Type) where
  /-- A text. -/
  text : ν → Read String
  /-- A truth value. -/
  truth : ν → Read Bool
  /-- An integer of 64 bits with a sign. -/
  integer : ν → Read Int
  /-- Nothing for a null node, the node itself for any other. -/
  optional : ν → Read (Option ν)
  /-- The items of a list. -/
  items : ν → Read (List ν)
  /-- The entries of a map. -/
  entries : ν → Read (List (ν × ν))
  /-- The parts of a structured value. -/
  parts : ν → Read (Parts ν)
  /-- A name among those that a choice knows. -/
  variant : {α : Type} → (String → Option α) → ν → Read α
  /-- A value of any shape. -/
  any : ν → Read Json
  /-- A value of any shape that is first read and only later made into JSON. -/
  untyped : ν → Read (Read Json)
  /-- A node that is passed over. -/
  skip : ν → Read Unit

export Source (text truth integer optional items entries parts variant any untyped skip)

variable {ν σ α : Type} [Source ν]

/-- A value that may be null. -/
def nullable (read : ν → Read α) (node : ν) : Read (Option α) := do
  -- What is not null is read as a value without more ado.
  match ← optional node with
  | none => return none
  | some node => return some (← read node)

/-- A list of values, read in order. -/
def list (read : ν → Read α) (node : ν) : Read (List α) := do
  (← items node).mapM read

/-- Named values sorted by name, of which the last one with each name counts. -/
def map (read : ν → Read α) (node : ν) : Read (List (String × α)) := do
  -- A later entry with the same name takes the place of an earlier one.
  let pairs ← (← entries node).mapM fun (key, value) => do
    return (← text key, ← read value)
  return Json.sortEntries pairs

/-- Where a field may be left out. -/
inductive Absence where
  /-- The field has to be given. -/
  | never
  /-- The field may be left out among named parts. -/
  | named
  /-- The field may be left out among named parts, and at the end of positional ones. -/
  | anywhere
  deriving DecidableEq, Repr

/-- One field of a structured value, which is read into a draft of it. -/
structure Field (ν σ : Type) where
  /-- The name of the field. -/
  name : String
  /-- Whether the draft has the field already. -/
  given : σ → Bool
  /-- The draft with the field read from a node. -/
  read : σ → ν → Read σ
  /-- Where the field may be left out. -/
  absence : Absence

/-- Reads named parts in order. Unknown names are passed over, and none may be given twice. -/
def readNamed (fields : List (Field ν σ)) : σ → List (ν × ν) → Read σ
  -- Whether fields are missing is asked at the end, in the order of the fields.
  | draft, [] =>
    match fields.find? fun f => f.absence == .never && !f.given draft with
    | some f => .error (.missingField f.name)
    | none => .ok draft
  | draft, (key, value) :: rest => do
    let name ← text key
    match fields.find? fun f => f.name == name with
    | none => do
      skip value
      readNamed fields draft rest
    | some f =>
      if f.given draft then .error (.duplicateField name)
      else do readNamed fields (← f.read draft value) rest

/-- Reads positional parts, one for each field in order. -/
def readPositional : List (Field ν σ) → σ → List ν → Read σ
  -- Without names the order counts, and none may be left over.
  | [], draft, [] => .ok draft
  | [], _, _ :: _ => .error .other
  | f :: fields, draft, [] =>
    if f.absence == .anywhere then readPositional fields draft [] else .error .other
  | f :: fields, draft, value :: rest => do
    readPositional fields (← f.read draft value) rest

/-- Reads a structured value through a draft that starts empty. -/
def record (fields : List (Field ν σ)) (empty : σ) (node : ν) : Read σ := do
  -- Values may be read by name or by position, as a list shows.
  match ← parts node with
  | .named entries => readNamed fields empty entries
  | .positional values => readPositional fields empty values

/-- Reads named parts in order, where a later part replaces an earlier one of its name. -/
def readLatest (fields : List (String × (σ → ν → Read σ))) : σ → List (ν × ν) → Read σ
  -- Unlike the parts of a record, these may be given more than once.
  | draft, [] => .ok draft
  | draft, (key, value) :: rest => do
    let name ← text key
    match fields.lookup name with
    | none => do
      skip value
      readLatest fields draft rest
    | some read => do readLatest fields (← read draft value) rest

/-- Reads a structured value all of whose fields are optional and may be repeated. -/
def latest (fields : List (String × (σ → ν → Read σ))) (empty : σ) (node : ν) : Read σ := do
  readLatest fields empty (← entries node)

/-- A value that a draft must have by the time it is complete. -/
def present (name : String) : Option α → Read α
  -- The fault names the field, so that each field tells its own absence.
  | some value => .ok value
  | none => .error (.missingField name)

end CsiOperator.Decode
