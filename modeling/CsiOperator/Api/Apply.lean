import CsiOperator.Api.Client
import CsiOperator.Manifest.Basic

/-! Making the objects of manifests what they are to be. -/

namespace CsiOperator.Api

variable [Decode.Wording]

/-- Applies the object of a manifest, in its namespace or in the whole cluster. -/
def applyManifest (m : Manifest) : Exchange (Except Failure Unit) := do
  -- The reply is read as a manifest, since any kind of object may come back.
  let name := m.metadata.anyName
  let request := Request.apply (collection m.type m.metadata.space) name m.toJson
  match ← exchange request (Manifest.read (ν := Json.Tree)) with
  | .ok _ => return .ok ()
  | .error cause =>
    return .error (.internal "apply_manifest" (m.kind ++ " " ++ name ++ ": " ++ cause.message))

/-- Applies documents one after another, up to the first failure. -/
def applyDocuments : List String → Exchange (Except Failure Unit)
  -- A document is parsed when its turn comes, so those before it have been applied by then.
  | [] => .done (.ok ())
  | document :: rest =>
    match Manifest.parse document with
    | .error failure => .done (.error failure)
    | .ok manifest => (applyManifest manifest).bind fun
      | .error failure => .done (.error failure)
      | .ok () => applyDocuments rest

/-- Applies every document of a text, up to the first failure. -/
def applyText (text : String) : Exchange (Except Failure Unit) :=
  applyDocuments (Manifest.documents text)

end CsiOperator.Api
