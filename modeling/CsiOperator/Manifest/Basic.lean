import CsiOperator.Decode.Json
import CsiOperator.Decode.Yaml
import CsiOperator.Failure
import CsiOperator.Manifest.Documents
import CsiOperator.Resource.Metadata
import CsiOperator.Resource.Type

/-! Manifests: objects of any type, and where they belong. -/

namespace CsiOperator

open Decode

/-- An object whose type is known only from its text. -/
structure Manifest where
  /-- The group and version of its type. -/
  apiVersion : String
  /-- The kind of its type. -/
  kind : String
  /-- The identity of the object. -/
  metadata : Metadata
  /-- All other fields, sorted by name. -/
  fields : List (String × Json)
  deriving Repr

namespace Manifest

/-- An object of which the fields have been read. -/
structure Draft where
  /-- The metadata, once read. -/
  metadata : Option Metadata
  /-- The other fields in the order of the text. -/
  fields : List (String × Read Json)

/-- Reads the fields of an object; metadata may be given once. -/
def readFields {ν : Type} [Source ν] : Draft → List (ν × ν) → Read Draft
  -- Fields are kept in their order, since the last one of a name counts in the end.
  | draft, [] => .ok draft
  | draft, (key, value) :: rest => do
    let name ← text key
    if name == "metadata" then
      if draft.metadata.isSome then .error (.duplicateField "metadata")
      else do
        let metadata ← Metadata.read value
        readFields { draft with metadata := some metadata } rest
    else do
      let value ← untyped value
      readFields { draft with fields := draft.fields ++ [(name, value)] } rest

/-- Takes the API version and the kind out of the fields: each a text, each given once. -/
def takeType : (apiVersion kind : Option String) → List (String × Read Json) →
    Option (String × String) × List (String × Read Json)
  -- What is left behind a fault is not looked at, so the fields end there.
  | some apiVersion, some kind, [] => (some (apiVersion, kind), [])
  | _, _, [] => (none, [])
  | apiVersion, kind, (name, value) :: rest =>
    match name, value with
    | "apiVersion", .ok (.text s) =>
      if apiVersion.isSome then (none, rest) else takeType (some s) kind rest
    | "kind", .ok (.text s) =>
      if kind.isSome then (none, rest) else takeType apiVersion (some s) rest
    | name, value =>
      if name == "apiVersion" || name == "kind" then (none, rest)
      else
        let (type, fields) := takeType apiVersion kind rest
        (type, (name, value) :: fields)

/-- Reads an object: its API version and kind, if it has both, and the rest of it. -/
def read {ν : Type} [Source ν] (node : ν) :
    Read (Option (String × String) × Metadata × List (String × Json)) := do
  -- Faults of values come only after the type has been taken, in their own order.
  let draft ← readFields ⟨none, []⟩ (← entries node)
  let (type, fields) := takeType none none draft.fields
  let fields ← fields.mapM fun (name, value) => do return (name, ← value)
  return (type, draft.metadata.getD Metadata.empty, Json.sortEntries fields)

/-- The manifest that one document holds. It has to tell its type and its name. -/
def parse (document : String) : Except Failure Manifest := do
  -- The type is asked for before the name, and an empty text tells neither.
  let (type, metadata, fields) ← Failure.ofRead document (Yaml.decode read document)
  match type with
  | none => throw untold
  | some (apiVersion, kind) =>
    if apiVersion.isEmpty || kind.isEmpty then throw untold
    if (metadata.name.getD "").isEmpty then
      throw (.serialization (kind ++ " manifest has no metadata.name"))
    return ⟨apiVersion, kind, metadata, fields⟩
where
  /-- The failure of an object that does not tell its type. -/
  untold : Failure :=
    .serialization "manifest has no apiVersion/kind"

/-- The type of a manifest. -/
def type (m : Manifest) : ResourceType :=
  ResourceType.ofKind m.apiVersion m.kind

/-- A manifest as a value. -/
def toJson (m : Manifest) : Json :=
  -- The type and the metadata come first, as in any object.
  .object ([("apiVersion", .text m.apiVersion), ("kind", .text m.kind),
    ("metadata", m.metadata.toJson)] ++ m.fields)

end Manifest

end CsiOperator
