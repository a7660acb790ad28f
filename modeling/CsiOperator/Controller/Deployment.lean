import CsiOperator.Controller.Statics
import CsiOperator.Manifest.Basic

/-! Keeping the Deployment of a driver applied. -/

namespace CsiOperator.Controller

/-- The only kind of object that the asset may hold. -/
def deploymentKind : String := "Deployment"

/-- Accepts documents that are all manifests of Deployments. -/
def checkDeployments (controller asset : String) : List String → Except Failure Unit
  -- The first document that is wrong tells the fault, whatever is behind it.
  | [] => .ok ()
  | document :: rest => do
    let manifest ← Manifest.parse document
    if manifest.type.kind != deploymentKind then
      throw (.internal controller (asset ++ " contains a " ++ manifest.type.kind))
    checkDeployments controller asset rest

/-- The text of an asset, which has to hold at least one Deployment and nothing else. -/
def loadDeployment (controller : String) (assets : AssetSource) (asset : String) :
    Except Failure String := do
  -- The text is checked as a whole before any of it is applied.
  let text ← assets asset
  let documents := Manifest.documents text
  checkDeployments controller asset documents
  if documents.isEmpty then
    throw (.internal controller (asset ++ " contains no Deployment"))
  return text

/-- Has the Deployment applied once, if there is an asset with it. -/
def syncDeployment (controller : String) (assets : AssetSource) (asset : Option String) :
    Applying (Except Failure Unit) :=
  -- Without an asset there is nothing to do, and that is no failure.
  match asset with
  | none => .done (.ok ())
  | some asset =>
    match loadDeployment controller assets asset with
    | .ok text => .ask text .done
    | .error failure => .done (.error failure)

end CsiOperator.Controller
