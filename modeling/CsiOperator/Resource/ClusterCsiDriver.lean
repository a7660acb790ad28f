import CsiOperator.Resource.Storage

/-! The object by which an administrator configures one CSI driver. -/

namespace CsiOperator

open Decode

/-- The configuration of one CSI driver. -/
structure ClusterCsiDriver where
  /-- The identity of the object, which is named for the driver. -/
  metadata : Metadata
  /-- The management state; absent while nobody has set it. -/
  managementState : Option ManagementState
  deriving Repr

namespace ClusterCsiDriver

/-- The resource type of CSI drivers. -/
def type : ResourceType :=
  ⟨ResourceType.operatorGroup, "v1", "ClusterCSIDriver", "clustercsidrivers"⟩

/-- Reads the configuration of a driver. -/
def read {ν : Type} [Source ν] (node : ν) : Read ClusterCsiDriver := do
  -- What is observed of a driver is not of interest here, so it is passed over.
  let fields : List (Field ν (ObjectDraft (Option ManagementState) Unit)) :=
    ObjectDraft.stateless ManagementState.readSpec
  let d ← record fields ObjectDraft.empty node
  return ⟨← present "metadata" d.metadata, ← present "spec" d.spec⟩

instance : Kind ClusterCsiDriver where
  -- The observed state is not held, and so it is not written either.
  type := type
  read := read
  metadata := (·.metadata)
  body d := [("spec", some (ManagementState.specToJson d.managementState))]

/-- What is created for a driver that has no object yet. -/
def desired (driver : String) : ClusterCsiDriver :=
  ⟨Metadata.named driver, some .managed⟩

end ClusterCsiDriver

end CsiOperator
