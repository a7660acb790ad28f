import CsiOperator.Resource.Metadata
import CsiOperator.Resource.Type

/-! Objects of the API: metadata, a desired state and an observed one. -/

namespace CsiOperator

open Decode

/-- The name of the cluster's only object of each type that configures the whole cluster. -/
def clusterName : String := "cluster"

/-- A type whose values are objects of one resource type. -/
class Kind (α : Type) where
  /-- The resource type. -/
  type : ResourceType
  /-- Reads an object; its own API version and kind are not looked at. -/
  read : {ν : Type} → [Source ν] → ν → Read α
  /-- The metadata of an object. -/
  metadata : α → Metadata
  /-- An object as a value without its API version and kind. -/
  body : α → List (String × Option Json)

/-- An object as a value. -/
def Kind.toJson {α : Type} [Kind α] (object : α) : Json :=
  -- The type comes first, and then what all kinds have in common.
  .record <| [
    ("apiVersion", some (.text (Kind.type α).apiVersion)),
    ("kind", some (.text (Kind.type α).kind)),
    ("metadata", some (Kind.metadata object).toJson)] ++ Kind.body object

/-- An object of which some parts have been read. -/
structure ObjectDraft (σ τ : Type) where
  /-- The metadata, once read. -/
  metadata : Option Metadata
  /-- The desired state, once read. -/
  spec : Option σ
  /-- The observed state, once read; it may be null. -/
  status : Option (Option τ)

namespace ObjectDraft

variable {ν σ τ : Type} [Source ν]

/-- The parts of an object without an observed state. -/
def stateless (readSpec : ν → Read σ) : List (Field ν (ObjectDraft σ τ)) := [
  -- Both parts have to be there, and neither may be null.
  ⟨"metadata", (·.metadata.isSome), fun d n => return { d with metadata := some (← Metadata.read n) },
    .never⟩,
  ⟨"spec", (·.spec.isSome), fun d n => return { d with spec := some (← readSpec n) }, .never⟩]

/-- The parts of an object with an observed state, which may be absent. -/
def stateful (readSpec : ν → Read σ) (readStatus : ν → Read τ) :
    List (Field ν (ObjectDraft σ τ)) :=
  -- The state may be null; it must be there when the parts have no names.
  stateless readSpec ++ [
    ⟨"status", (·.status.isSome), fun d n => return { d with status := some (← nullable readStatus n) },
      .named⟩]

/-- A draft of nothing. -/
def empty : ObjectDraft σ τ :=
  ⟨none, none, none⟩

end ObjectDraft

end CsiOperator
