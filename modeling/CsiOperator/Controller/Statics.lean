import CsiOperator.Asset
import CsiOperator.Dialogue

/-! Keeping the static assets of a driver applied. -/

namespace CsiOperator

/-- A computation that has texts of manifests applied, and learns how that went. -/
abbrev Applying (α : Type) := Dialogue String (fun _ => Except Failure Unit) α

namespace Controller

/-- Has one asset applied. -/
def applyAsset (assets : AssetSource) (asset : String) : Applying (Except Failure Unit) :=
  -- An asset that cannot be loaded is not sent.
  match assets asset with
  | .ok text => .ask text .done
  | .error failure => .done (.error failure)

variable [Decode.Wording]

/-- Has every asset applied, and tells which failed and why. A failure does not stop the others. -/
def failedAssets (assets : AssetSource) : List String → Applying (List String)
  -- The failures are told in the order of the assets, after all of them have been tried.
  | [] => .done []
  | asset :: rest => do
    let outcome ← applyAsset assets asset
    let failures ← failedAssets assets rest
    match outcome with
    | .ok () => return failures
    | .error failure => return (asset ++ ": " ++ failure.message) :: failures

/-- Has every asset applied once; what failed is told together. -/
def syncStatics (controller : String) (assets : AssetSource) (names : List String) :
    Applying (Except Failure Unit) := do
  -- Every failure bears the name of its asset, and all of them are told at once.
  match ← failedAssets assets names with
  | [] => return .ok ()
  | failures => return .error (.internal controller (String.intercalate "; " failures))

end Controller

end CsiOperator
