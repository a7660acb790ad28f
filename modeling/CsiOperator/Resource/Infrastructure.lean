import CsiOperator.Resource.Object
import CsiOperator.Resource.Platform

/-! The platform that a cluster runs on. -/

namespace CsiOperator

open Decode

/-- What is observed of a cluster's provider. -/
structure PlatformStatus where
  /-- The provider; absent while it has not been reported. -/
  type : Option Platform
  deriving DecidableEq, Repr

/-- What is observed of a cluster's machines. -/
structure InfrastructureStatus where
  /-- What is observed of the provider. -/
  platformStatus : Option PlatformStatus
  deriving DecidableEq, Repr

/-- The machines of a cluster. -/
structure Infrastructure where
  /-- The identity of the object. -/
  metadata : Metadata
  /-- What is observed; absent while nothing has been reported. -/
  status : Option InfrastructureStatus
  deriving Repr

/-- Reads what is observed of a provider. -/
def PlatformStatus.read {ν : Type} [Source ν] (node : ν) : Read PlatformStatus := do
  -- The type may be missing or null, and either way no platform has been reported.
  let fields : List (Field ν (Option (Option Platform))) := [
    ⟨"type", (·.isSome), fun _ n => return some (← nullable Platform.read n), .anywhere⟩]
  return ⟨(← record fields none node).join⟩

/-- What is observed of a provider as a value. -/
def PlatformStatus.toJson (s : PlatformStatus) : Json :=
  .record [("type", s.type.map fun p => .text p.name)]

/-- Reads what is observed of a cluster's machines. -/
def InfrastructureStatus.read {ν : Type} [Source ν] (node : ν) : Read InfrastructureStatus := do
  -- The status of the platform may be missing or null, as its type may.
  let fields : List (Field ν (Option (Option PlatformStatus))) := [
    ⟨"platformStatus", (·.isSome), fun _ n => return some (← nullable PlatformStatus.read n),
      .anywhere⟩]
  return ⟨(← record fields none node).join⟩

/-- What is observed of a cluster's machines as a value. -/
def InfrastructureStatus.toJson (s : InfrastructureStatus) : Json :=
  .record [("platformStatus", s.platformStatus.map PlatformStatus.toJson)]

namespace Infrastructure

/-- The resource type of infrastructures. -/
def type : ResourceType :=
  ⟨ResourceType.configGroup, "v1", "Infrastructure", "infrastructures"⟩

/-- Reads an infrastructure; its desired state has no fields. -/
def read {ν : Type} [Source ν] (node : ν) : Read Infrastructure := do
  -- The desired state has to be there all the same.
  let fields : List (Field ν (ObjectDraft Unit InfrastructureStatus)) :=
    ObjectDraft.stateful (record [] ()) InfrastructureStatus.read
  let d ← record fields ObjectDraft.empty node
  return { metadata := ← present "metadata" d.metadata, status := d.status.join }

instance : Kind Infrastructure where
  -- The desired state is written as an object without fields, as it was read.
  type := type
  read := read
  metadata := (·.metadata)
  body i := [("spec", some (.object [])), ("status", i.status.map InfrastructureStatus.toJson)]

/-- The platform of a cluster, unless none has been reported. -/
def platform (i : Infrastructure) : Option Platform := do
  (← (← i.status).platformStatus).type

/-- An infrastructure that has reported a platform, or has reported none. -/
def withPlatform (name : String) (platform : Option Platform) : Infrastructure :=
  ⟨Metadata.named name, some ⟨some ⟨platform⟩⟩⟩

end Infrastructure

end CsiOperator
