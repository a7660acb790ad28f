import CsiOperator.Resource.Object

/-! The features that a cluster has switched on. -/

namespace CsiOperator

open Decode

/-- Gates listed one by one. -/
structure GateLists where
  /-- The gates switched on. -/
  enabled : List String
  /-- The gates switched off. -/
  disabled : List String
  deriving DecidableEq, Repr

/-- The feature set that a cluster has selected. -/
inductive FeatureSet where
  /-- No set has been selected. -/
  | unset
  /-- The gates are listed in the object itself. -/
  | custom
  /-- A set with a name. -/
  | named (name : String)
  deriving DecidableEq, Repr

/-- The selection of features of a cluster. -/
structure FeatureGate where
  /-- The identity of the object. -/
  metadata : Metadata
  /-- The name of the selected set; empty when none is. -/
  featureSet : String
  /-- The gates that count when the set is a custom one. -/
  customNoUpgrade : Option GateLists
  deriving Repr

/-- Reads two lists of gates, either of which may be left out. -/
def GateLists.read {ν : Type} [Source ν] (node : ν) : Read GateLists := do
  -- Either list may be missing, but neither may be null.
  let fields : List (Field ν (Option (List String) × Option (List String))) := [
    ⟨"enabled", (·.1.isSome), fun d n => return (some (← list text n), d.2), .anywhere⟩,
    ⟨"disabled", (·.2.isSome), fun d n => return (d.1, some (← list text n)), .anywhere⟩]
  let (enabled, disabled) ← record fields (none, none) node
  return ⟨enabled.getD [], disabled.getD []⟩

/-- Two lists of gates as a value. -/
def GateLists.toJson (g : GateLists) : Json :=
  .record [("enabled", some (.texts g.enabled)), ("disabled", some (.texts g.disabled))]

namespace FeatureGate

/-- The resource type of feature gates. -/
def type : ResourceType :=
  ⟨ResourceType.configGroup, "v1", "FeatureGate", "featuregates"⟩

/-- The name of the set whose gates are listed in the object. -/
def customSet : String := "CustomNoUpgrade"

/-- Reads the desired state: the name of a set and, perhaps, lists of gates. -/
def readSpec {ν : Type} [Source ν] (node : ν) : Read (String × Option GateLists) := do
  -- The name of a set may be missing, and the lists may be null as well.
  let fields : List (Field ν (Option String × Option (Option GateLists))) := [
    ⟨"featureSet", (·.1.isSome), fun d n => return (some (← text n), d.2), .anywhere⟩,
    ⟨"customNoUpgrade", (·.2.isSome),
      fun d n => return (d.1, some (← nullable GateLists.read n)), .anywhere⟩]
  let (featureSet, lists) ← record fields (none, none) node
  return (featureSet.getD "", lists.join)

/-- Reads a feature gate. -/
def read {ν : Type} [Source ν] (node : ν) : Read FeatureGate := do
  -- What is observed of the gate is not of interest here.
  let fields : List (Field ν (ObjectDraft (String × Option GateLists) Unit)) :=
    ObjectDraft.stateless readSpec
  let d ← record fields ObjectDraft.empty node
  let (featureSet, lists) ← present "spec" d.spec
  return ⟨← present "metadata" d.metadata, featureSet, lists⟩

instance : Kind FeatureGate where
  -- The two parts of the desired state are written if they tell anything.
  type := type
  read := read
  metadata := (·.metadata)
  body g := [("spec", some (.record [
    ("featureSet", if g.featureSet.isEmpty then none else some (.text g.featureSet)),
    ("customNoUpgrade", g.customNoUpgrade.map GateLists.toJson)]))]

/-- The feature set that the name of one means. -/
def selected (g : FeatureGate) : FeatureSet :=
  -- The name decides whether the lists of the cluster itself count.
  if g.featureSet.isEmpty then .unset
  else if g.featureSet == customSet then .custom
  else .named g.featureSet

/-- A feature gate that selects a set by name. -/
def withFeatureSet (name featureSet : String) : FeatureGate :=
  ⟨Metadata.named name, featureSet, none⟩

/-- A feature gate that lists the gates it switches on. -/
def withGates (name : String) (enabled : List String) : FeatureGate :=
  ⟨Metadata.named name, customSet, some ⟨enabled, []⟩⟩

end FeatureGate

end CsiOperator
