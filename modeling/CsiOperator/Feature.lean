import CsiOperator.Resource.FeatureGate

/-! The features that each named set switches on. -/

namespace CsiOperator

/-- Feature sets by name. -/
structure FeatureCatalog where
  /-- The features of each set, sorted by the name of the set. -/
  sets : List (String × List String)
  deriving DecidableEq, Repr

namespace FeatureCatalog

/-- A catalog without sets. -/
def empty : FeatureCatalog :=
  ⟨[]⟩

/-- A catalog with one more set, which takes the place of one with its name. -/
def withSet (c : FeatureCatalog) (name : String) (features : List String) : FeatureCatalog :=
  ⟨Json.insertEntry name features c.sets⟩

/-- The features that every set of the release switches on. -/
def defaultFeatures : List String :=
  -- In the order of the release's own list, in which they are also shown.
  ["AzureWorkloadIdentity", "BuildCSIVolumes", "CSIDriverAzureFile", "KMSv1",
    "PrivateHostedZoneAWS"]

/-- The features that only preview sets switch on. -/
def previewFeatures : List String :=
  -- Put behind the default ones, so their order shows as well.
  ["CSIDriverSharedResource", "GCPFilestoreCSIDriver", "VSphereDriverConfiguration",
    "VSphereMultiVCenters", "VolumeGroupSnapshot"]

/-- The sets of the release. -/
def builtin : FeatureCatalog :=
  -- Both preview sets have the same features in this release.
  ((empty.withSet "Default" defaultFeatures).withSet
    "TechPreviewNoUpgrade" (defaultFeatures ++ previewFeatures)).withSet
    "DevPreviewNoUpgrade" (defaultFeatures ++ previewFeatures)

/-- The features of a set, unless the catalog does not have it. -/
def features? (c : FeatureCatalog) (set : String) : Option (List String) :=
  c.sets.lookup set

/-- The features that a cluster's selection switches on, as they are listed. -/
def listed (c : FeatureCatalog) (gate : FeatureGate) : List String :=
  match gate.selected with
  -- A selection that names no set enables nothing, and so does one whose set is not known.
  | .unset => []
  | .custom => (gate.customNoUpgrade.map (·.enabled)).getD []
  | .named name => (c.features? name).getD []

/-- The features that a cluster's selection switches on, in order and each once. -/
def enabled (c : FeatureCatalog) (gate : FeatureGate) : List String :=
  (Json.sortEntries ((c.listed gate).map fun feature => (feature, ()))).map (·.1)

/-- A cluster's selection switches a feature on. -/
def isEnabled (c : FeatureCatalog) (gate : FeatureGate) (feature : String) : Bool :=
  (c.listed gate).contains feature

end FeatureCatalog

end CsiOperator
