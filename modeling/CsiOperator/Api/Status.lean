import CsiOperator.Api.Client
import CsiOperator.Resource.ClusterOperator
import CsiOperator.Resource.Storage

/-! The observed states that the operator writes. -/

namespace CsiOperator.Api

/-- The change that replaces the conditions of a storage. -/
def conditionsChange (conditions : List Condition) : Json :=
  .object [("status", .object [("conditions", .array (conditions.map Condition.toJson))])]

/-- Replaces the conditions of a storage. -/
def patchConditions (name : String) (conditions : List Condition) :
    Exchange (Except Failure Unit) := do
  -- Nothing of the reply is used but whether there is one.
  return (ofApi (← mergeStatus Storage name (conditionsChange conditions))).map fun _ => ()

/-- The name of the record in which the operator reports. -/
def operatorName : String := "storage"

/-- The related objects of an operator, and the version of its record that has them. -/
structure RelatedObjects where
  /-- The version of the record, if it tells one. -/
  resourceVersion : Option String
  /-- The related objects. -/
  objects : List RelatedObject
  deriving DecidableEq, Repr

/-- Reads the related objects, unless the operator has no record yet. -/
def relatedObjects : Exchange (Except Failure (Option RelatedObjects)) := do
  -- Both the version and the references are taken from one and the same reply.
  return (ofApi (← get? ClusterOperator operatorName)).map fun found => found.map fun operator =>
    ⟨operator.metadata.resourceVersion, operator.status.getD []⟩

/-- The change that replaces the related objects, on condition that the record still has a version. -/
def relatedObjectsChange (version : Option String) (objects : List RelatedObject) : Json :=
  -- Without a version there is no metadata in the change, and so no condition.
  .record [
    ("metadata", version.map fun v => .object [("resourceVersion", .text v)]),
    ("status", some (ClusterOperator.statusToJson objects))]

/-- Replaces the related objects. With a version, the server refuses if the record has another. -/
def patchRelatedObjects (version : Option String) (objects : List RelatedObject) :
    Exchange (Except Failure Unit) := do
  -- The reply is not used, as the next publication reads the record anew.
  let change := relatedObjectsChange version objects
  return (ofApi (← mergeStatus ClusterOperator operatorName change)).map fun _ => ()

end CsiOperator.Api
