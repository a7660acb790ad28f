import CsiOperator.Resource.Object
import CsiOperator.Resource.RelatedObject

/-! The cluster's record of an operator: the objects that it is responsible for. -/

namespace CsiOperator

open Decode

/-- What a cluster knows of an operator. -/
structure ClusterOperator where
  /-- The identity of the object. -/
  metadata : Metadata
  /-- The related objects; absent while nothing has been reported. -/
  status : Option (List RelatedObject)
  deriving Repr

namespace ClusterOperator

/-- The resource type of cluster operators. -/
def type : ResourceType :=
  ⟨ResourceType.configGroup, "v1", "ClusterOperator", "clusteroperators"⟩

/-- Reads an observed state; absent related objects are none. -/
def readStatus {ν : Type} [Source ν] (node : ν) : Read (List RelatedObject) := do
  -- The state has other fields in the cluster, which are passed over.
  let fields : List (Field ν (Option (List RelatedObject))) := [
    ⟨"relatedObjects", (·.isSome), fun _ n => return some (← list RelatedObject.read n),
      .anywhere⟩]
  return (← record fields none node).getD []

/-- An observed state as a value; the related objects are always written. -/
def statusToJson (objects : List RelatedObject) : Json :=
  .record [("relatedObjects", some (.array (objects.map RelatedObject.toJson)))]

/-- Reads a cluster operator; its desired state has no fields. -/
def read {ν : Type} [Source ν] (node : ν) : Read ClusterOperator := do
  -- The desired state has to be there all the same.
  let fields : List (Field ν (ObjectDraft Unit (List RelatedObject))) :=
    ObjectDraft.stateful (record [] ()) readStatus
  let d ← record fields ObjectDraft.empty node
  return ⟨← present "metadata" d.metadata, d.status.join⟩

instance : Kind ClusterOperator where
  -- The desired state is written as an object without fields, as it was read.
  type := type
  read := read
  metadata := (·.metadata)
  body o := [("spec", some (.object [])), ("status", o.status.map statusToJson)]

end ClusterOperator

end CsiOperator
