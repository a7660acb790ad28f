import CsiOperator.Descriptor.Basic
import CsiOperator.Feature
import CsiOperator.Resource.Infrastructure

/-! When a driver should run on a cluster. -/

namespace CsiOperator.Descriptor

/-- A driver should run on its own platform, once the feature that it needs is switched on. A cluster
that has not reported a platform runs no driver. -/
def shouldRun (d : Descriptor) (infrastructure : Infrastructure) (gate : FeatureGate)
    (catalog : FeatureCatalog) : Bool :=
  -- The platform is compared as it has been reported, so an unknown one is never a match.
  infrastructure.platform == some d.platform &&
    match d.requiredFeature with
    | none => true
    | some feature => catalog.isEnabled gate feature

end CsiOperator.Descriptor
