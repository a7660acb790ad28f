import CsiOperator.Api.Client
import CsiOperator.Resource.ClusterCsiDriver

/-! Keeping the object that configures a driver present. -/

namespace CsiOperator.Controller

open Api (Exchange)

/-- The code by which a server says that an object exists already. -/
def conflictCode : Nat := 409

/-- Creates the object of a driver if it is missing; one that exists belongs to the administrator. -/
def syncDriverObject (driver : String) : Exchange (Except Failure Unit) := do
  match ← Api.get? ClusterCsiDriver driver with
  | .error failure => return .error (.api failure)
  | .ok (some _) => return .ok ()
  | .ok none =>
    match ← Api.create (ClusterCsiDriver.desired driver) with
    | .ok _ => return .ok ()
    | .error failure =>
      -- Somebody else has created it in the meantime.
      if failure.code? == some conflictCode then return .ok () else return .error (.api failure)

end CsiOperator.Controller
