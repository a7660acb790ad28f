import CsiOperator.Resource.ClusterCsiDriver
import CsiOperator.Resource.Platform
import CsiOperator.Resource.RelatedObject
import CsiOperator.Text.Quoted

/-! Descriptions of CSI driver operators: where each one runs, and what is installed for it. -/

namespace CsiOperator

open Decode

/-- What is known of one CSI driver operator from the start. -/
structure Descriptor where
  /-- The name of its bundle, which also begins the names of its controllers. -/
  conditionPrefix : String
  /-- The platform that it runs on. -/
  platform : Platform
  /-- The feature that has to be switched on for it, if there is one. -/
  requiredFeature : Option String
  /-- The name of the CSI driver. -/
  driver : String
  /-- The assets that are applied for it. -/
  staticAssets : List String
  /-- The asset with its Deployment. -/
  deploymentAsset : Option String
  /-- The controller that removes an earlier installation. -/
  removal : Option String
  /-- Further controllers of its bundle. -/
  extraControllers : List String
  deriving DecidableEq, Repr, Inhabited

namespace Descriptor

/-- A driver that needs no feature and has no assets. -/
def new (conditionPrefix : String) (platform : Platform) (driver : String) : Descriptor :=
  ⟨conditionPrefix, platform, none, driver, [], none, none, []⟩

/-- A text, unless it is empty. -/
def unlessEmpty (s : String) : Option String :=
  if s.isEmpty then none else some s

/-- A driver that needs a feature; an empty name needs none. -/
def requireFeature (d : Descriptor) (feature : String) : Descriptor :=
  { d with requiredFeature := unlessEmpty feature }

/-- A driver with other static assets. -/
def withStaticAssets (d : Descriptor) (assets : List String) : Descriptor :=
  { d with staticAssets := assets }

/-- A driver with another Deployment; an empty name is none. -/
def withDeployment (d : Descriptor) (asset : String) : Descriptor :=
  { d with deploymentAsset := unlessEmpty asset }

/-- A driver with a controller that removes an earlier installation. -/
def withRemoval (d : Descriptor) (controller : String) : Descriptor :=
  { d with removal := some controller }

/-- A driver with one more controller. -/
def withExtraController (d : Descriptor) (controller : String) : Descriptor :=
  { d with extraControllers := d.extraControllers ++ [controller] }

/-- The reference to the object that configures the driver. -/
def relatedObject (d : Descriptor) : RelatedObject :=
  RelatedObject.clusterScoped ClusterCsiDriver.type.group ClusterCsiDriver.type.plural d.driver

/-- A description of which some fields have been read. -/
structure Draft where
  /-- The name of the bundle, once read. -/
  conditionPrefix : Option String
  /-- The platform, once read. -/
  platform : Option Platform
  /-- The required feature, once read; it may be absent. -/
  requiredFeature : Option (Option String)
  /-- The name of the driver, once read. -/
  driver : Option String
  /-- The static assets, once read. -/
  staticAssets : Option (List String)
  /-- The asset with the Deployment, once read; it may be absent. -/
  deploymentAsset : Option (Option String)

/-- Reads a text that is absent when it is null or empty. -/
def readUnlessEmpty {ν : Type} [Source ν] (node : ν) : Read (Option String) := do
  return (← nullable text node).bind unlessEmpty

/-- The fields of a description in order. -/
def fields {ν : Type} [Source ν] : List (Field ν Draft) := [
  -- Three fields have to be there, and for the others there is something to take their place.
  ⟨"conditionPrefix", (·.conditionPrefix.isSome),
    fun d n => return { d with conditionPrefix := some (← text n) }, .never⟩,
  ⟨"platform", (·.platform.isSome),
    fun d n => return { d with platform := some (← Platform.read n) }, .never⟩,
  ⟨"requireFeatureGate", (·.requiredFeature.isSome),
    fun d n => return { d with requiredFeature := some (← readUnlessEmpty n) }, .anywhere⟩,
  ⟨"csiDriverName", (·.driver.isSome),
    fun d n => return { d with driver := some (← text n) }, .never⟩,
  ⟨"staticAssets", (·.staticAssets.isSome),
    fun d n => return { d with staticAssets := some (← list text n) }, .anywhere⟩,
  ⟨"deploymentAsset", (·.deploymentAsset.isSome),
    fun d n => return { d with deploymentAsset := some (← readUnlessEmpty n) }, .anywhere⟩]

/-- Reads a description. -/
def read {ν : Type} [Source ν] (node : ν) : Read Descriptor := do
  -- What a file cannot tell is left empty: removal and extra controllers are for code to set.
  let d ← record fields ⟨none, none, none, none, none, none⟩ node
  return {
    conditionPrefix := ← present "conditionPrefix" d.conditionPrefix
    platform := ← present "platform" d.platform
    requiredFeature := d.requiredFeature.join
    driver := ← present "csiDriverName" d.driver
    staticAssets := d.staticAssets.getD []
    deploymentAsset := d.deploymentAsset.join
    removal := none
    extraControllers := [] }

/-- A description as a value; whatever is absent or empty is left out. -/
def toJson (d : Descriptor) : Json :=
  -- The order is that of the fields, as it is shown in diagnostics.
  .record [
    ("conditionPrefix", some (.text d.conditionPrefix)),
    ("platform", some (.text d.platform.name)),
    ("requireFeatureGate", d.requiredFeature.map .text),
    ("csiDriverName", some (.text d.driver)),
    ("staticAssets", if d.staticAssets.isEmpty then none else some (.texts d.staticAssets)),
    ("deploymentAsset", d.deploymentAsset.map .text)]

/-- A description in diagnostics. -/
def diagnostic (d : Descriptor) : String :=
  -- The names in a diagnostic are those of the program, not those of a file.
  "DriverConfig \x7b condition_prefix: " ++ Text.quoted d.conditionPrefix ++
    ", platform: " ++ d.platform.label ++
    ", require_feature_gate: " ++ Text.quotedOption d.requiredFeature ++
    ", csi_driver_name: " ++ Text.quoted d.driver ++
    ", static_assets: " ++ Text.quotedList d.staticAssets ++
    ", deployment_asset: " ++ Text.quotedOption d.deploymentAsset ++
    ", olm_removal: " ++ Text.quotedOption d.removal ++
    ", extra_controllers: " ++ Text.quotedList d.extraControllers ++ " \x7d"

end Descriptor

end CsiOperator
