import CsiOperator.Descriptor.Eligibility
import CsiOperator.Descriptor.Validation
import CsiOperator.Ledger

/-! The bundles of an operator, and how those that are due are started. -/

namespace CsiOperator

/-- The controllers of one driver, which are started together. -/
structure Bundle where
  /-- The driver. -/
  descriptor : Descriptor
  /-- They have been started. -/
  running : Bool
  deriving DecidableEq, Repr

/-- The bundles of an operator and what it keeps about them. -/
structure Starter where
  /-- The bundles in the order of their descriptions. -/
  bundles : List Bundle
  /-- The references to the objects of the started bundles. -/
  ledger : Ledger
  /-- The features that each named set switches on. -/
  catalog : FeatureCatalog
  deriving DecidableEq, Repr

/-- The start of a bundle. -/
structure Start where
  /-- The driver of the bundle. -/
  descriptor : Descriptor
  /-- The ledger at that moment, which has the reference of the bundle already. -/
  ledger : Ledger
  deriving DecidableEq, Repr

namespace Starter

/-- An operator that has not started any of its bundles yet. -/
def new (ds : List Descriptor) : Except Failure Starter := do
  -- No feature set is known but those of the release, until a catalog is given.
  Descriptor.validateAll ds
  return ⟨ds.map fun d => ⟨d, false⟩, Ledger.empty, FeatureCatalog.builtin⟩

/-- The same operator with another catalog. -/
def withCatalog (s : Starter) (catalog : FeatureCatalog) : Starter :=
  { s with catalog }

/-- The names of the running bundles. -/
def running (s : Starter) : List String :=
  (s.bundles.filter (·.running)).map (·.descriptor.conditionPrefix)

/-- Starts the bundles that are due, in order. A reference is recorded before its bundle starts, so
that the ledger never lags behind. -/
def startDue (isDue : Descriptor → Bool) (ledger : Ledger) :
    List Bundle → List Bundle × Ledger × List Start
  -- A bundle that runs is passed over even if it is no longer due.
  | [] => ([], ledger, [])
  | bundle :: rest =>
    if !bundle.running && isDue bundle.descriptor then
      let recorded := (ledger.record bundle.descriptor.relatedObject).2
      let (bundles, last, starts) := startDue isDue recorded rest
      ({ bundle with running := true } :: bundles, last, ⟨bundle.descriptor, recorded⟩ :: starts)
    else
      let (bundles, last, starts) := startDue isDue ledger rest
      (bundle :: bundles, last, starts)

/-- Starts every bundle that should run on a cluster and does not run yet. -/
def activate (s : Starter) (infrastructure : Infrastructure) (gate : FeatureGate) :
    Starter × List Start :=
  -- What is due is decided by the driver alone, so the order of the bundles is all that counts.
  let (bundles, ledger, starts) :=
    startDue (fun d => d.shouldRun infrastructure gate s.catalog) s.ledger s.bundles
  ({ s with bundles, ledger }, starts)

end Starter

end CsiOperator
