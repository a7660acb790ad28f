import CsiOperator.Api.Client
import CsiOperator.Resource.FeatureGate
import CsiOperator.Resource.Infrastructure
import CsiOperator.Resource.Storage

/-! The objects of the cluster that the operator goes by. -/

namespace CsiOperator.Api

/-- Reads an object that has to exist. -/
def get (α : Type) [Kind α] (name : String) : Exchange (Except Failure α) := do
  -- Here it is the lack of the object that is the failure, whichever code told of it.
  match ← get? α name with
  | .ok (some object) => return .ok object
  | .ok none => return .error (.notFound (Kind.type α).kind name)
  | .error cause => return .error (.api cause)

/-- Reads the management state of the operator. -/
def managementState : Exchange (Except Failure (Option ManagementState)) := do
  return (← get Storage clusterName).map (·.managementState)

/-- Reads an infrastructure. -/
def infrastructure (name : String) : Exchange (Except Failure Infrastructure) :=
  get Infrastructure name

/-- Reads a feature gate. -/
def featureGate (name : String) : Exchange (Except Failure FeatureGate) :=
  get FeatureGate name

end CsiOperator.Api
