import CsiOperator.Resource.ManagementState
import CsiOperator.Resource.Object

/-! The operator's own object: its management state and its conditions. -/

namespace CsiOperator

open Decode

/-- The configuration and the state of the storage operator. -/
structure Storage where
  /-- The identity of the object. -/
  metadata : Metadata
  /-- The management state; absent while nobody has set it. -/
  managementState : Option ManagementState
  /-- The conditions; absent while none have been reported. -/
  status : Option (List Condition)
  deriving Repr

/-- Reads a desired state that has only a management state. -/
def ManagementState.readSpec {ν : Type} [Source ν] (node : ν) : Read (Option ManagementState) := do
  -- The state may be missing or null, and either way the operator is not managed.
  let fields : List (Field ν (Option (Option ManagementState))) := [
    ⟨"managementState", (·.isSome), fun _ n => return some (← nullable ManagementState.read n),
      .anywhere⟩]
  return (← record fields none node).join

/-- A desired state that has only a management state, as a value. -/
def ManagementState.specToJson (state : Option ManagementState) : Json :=
  .record [("managementState", state.map fun s => .text s.name)]

namespace Storage

/-- The resource type of storages. -/
def type : ResourceType :=
  ⟨ResourceType.operatorGroup, "v1", "Storage", "storages"⟩

/-- Reads an observed state; absent conditions are none. -/
def readStatus {ν : Type} [Source ν] (node : ν) : Read (List Condition) := do
  -- The conditions may be missing, but they may not be null.
  let fields : List (Field ν (Option (List Condition))) := [
    ⟨"conditions", (·.isSome), fun _ n => return some (← list Condition.read n), .anywhere⟩]
  return (← record fields none node).getD []

/-- An observed state as a value; conditions are left out when there are none. -/
def statusToJson (conditions : List Condition) : Json :=
  -- Without conditions nothing is written, and nothing is what is read.
  .record [("conditions",
    if conditions.isEmpty then none else some (.array (conditions.map Condition.toJson)))]

/-- Reads a storage. -/
def read {ν : Type} [Source ν] (node : ν) : Read Storage := do
  -- The state may be null as well as missing, unlike the desired one.
  let fields : List (Field ν (ObjectDraft (Option ManagementState) (List Condition))) :=
    ObjectDraft.stateful ManagementState.readSpec readStatus
  let d ← record fields ObjectDraft.empty node
  return ⟨← present "metadata" d.metadata, ← present "spec" d.spec, d.status.join⟩

instance : Kind Storage where
  -- Both states are written as they have been read.
  type := type
  read := read
  metadata := (·.metadata)
  body s := [
    ("spec", some (ManagementState.specToJson s.managementState)),
    ("status", s.status.map statusToJson)]

/-- The conditions, which are none while there is no observed state. -/
def conditions (s : Storage) : List Condition :=
  s.status.getD []

/-- The first condition of a type. -/
def condition? (s : Storage) (type : String) : Option Condition :=
  s.conditions.find? fun c => c.type == type

end Storage

end CsiOperator
