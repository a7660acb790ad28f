import CsiOperator.Api.Apply
import CsiOperator.Controller.Deployment
import CsiOperator.Controller.DriverObject
import CsiOperator.Descriptor.Basic

/-! The controllers of a bundle, in the order in which they are started. -/

namespace CsiOperator

/-- A controller of a bundle. -/
inductive Controller where
  /-- It keeps static assets applied. -/
  | statics (name : String) (assets : List String)
  /-- It keeps the object of a driver present. -/
  | driverObject (name driver : String)
  /-- It keeps a Deployment applied, if there is one. -/
  | deployment (name : String) (asset : Option String)
  /-- It is defined elsewhere, and runs until it is stopped. -/
  | external (name : String)
  deriving DecidableEq, Repr

namespace Controller

/-- The name of the controller of a bundle's static assets. -/
def staticsName (bundle : String) : String :=
  bundle ++ "CSIDriverOperatorStaticController"

/-- The name of the controller of a bundle's driver object. -/
def driverObjectName (bundle : String) : String :=
  bundle ++ "CSIDriverOperatorCRController"

/-- The name of the controller of a bundle's Deployment. -/
def deploymentName (bundle : String) : String :=
  bundle ++ "CSIDriverOperatorDeploymentController"

/-- The name of a controller. -/
def name : Controller → String
  | statics name _ => name
  | driverObject name _ => name
  | deployment name _ => name
  | external name => name

/-- One sync of a controller through the API, unless the controller is defined elsewhere. -/
def sync? [Decode.Wording] (assets : AssetSource) :
    Controller → Option (Api.Exchange (Except Failure Unit))
  -- Only the asset is applied through the API; loading it needs no request.
  | statics name names => some ((syncStatics name assets names).via Api.applyText)
  | driverObject _ driver => some (syncDriverObject driver)
  | deployment name asset => some ((syncDeployment name assets asset).via Api.applyText)
  | external _ => none

end Controller

/-- The controllers of a driver. -/
def Descriptor.controllers (d : Descriptor) : List Controller :=
  -- Removal and extra controllers are defined elsewhere, and they come last in this order.
  [.statics (Controller.staticsName d.conditionPrefix) d.staticAssets,
    .driverObject (Controller.driverObjectName d.conditionPrefix) d.driver,
    .deployment (Controller.deploymentName d.conditionPrefix) d.deploymentAsset] ++
    d.removal.toList.map .external ++ d.extraControllers.map .external

end CsiOperator
