import CsiOperator.Decode.Yaml
import CsiOperator.Descriptor.Validation
import CsiOperator.Yaml.Printer

/-! Drivers files: lists of drivers in YAML. -/

namespace CsiOperator.Descriptor

/-- Reads a drivers file and accepts its drivers. -/
def load (yaml : String) : Except Failure (List Descriptor) := do
  -- A file whose drivers are refused gives none of them.
  let ds ← Failure.ofRead yaml (Yaml.decode (Decode.list read) yaml)
  validateAll ds
  return ds

/-- The fields of a driver as a drivers file has them; whatever is absent or empty is left out. -/
def entries (d : Descriptor) : List (String × Yaml.Written) :=
  -- The order is that of the fields in a description.
  [("conditionPrefix", .text d.conditionPrefix), ("platform", .text d.platform.name)] ++
    (d.requiredFeature.map fun s => ("requireFeatureGate", Yaml.Written.text s)).toList ++
    [("csiDriverName", .text d.driver)] ++
    (if d.staticAssets.isEmpty then [] else [("staticAssets", .texts d.staticAssets)]) ++
    (d.deploymentAsset.map fun s => ("deploymentAsset", Yaml.Written.text s)).toList

/-- Drivers as the text of a drivers file. -/
def print (ds : List Descriptor) : String :=
  Yaml.Written.records (ds.map entries)

end CsiOperator.Descriptor
