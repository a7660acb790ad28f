import CsiOperator.Api.Status

/-! Publishing the references of a ledger in the cluster's record of the operator. -/

namespace CsiOperator.Publication

open Api (RelatedObjects)

/-- The references of the record with the missing ones of ours after them; nothing if none is missing. -/
def merge (current ours : List RelatedObject) : Option (List RelatedObject) :=
  -- The order of the record is kept, and that of ours behind it.
  match ours.filter fun object => !current.contains object with
  | [] => none
  | missing => some (current ++ missing)

/-- What a publication asks of its surroundings. -/
inductive Call where
  /-- Whether the ledger has references, and which. -/
  | ledger
  /-- The references of the record, and its version. -/
  | read
  /-- Replacing the references of the record, perhaps only if it still has a version. -/
  | write (version : Option String) (objects : List RelatedObject)
  deriving Repr

/-- What comes back for a call. -/
abbrev Call.Answer : Call → Type
  | .ledger => Bool × List RelatedObject
  | .read => Except Failure (Option RelatedObjects)
  | .write _ _ => Except Failure Unit

/-- Publishes once, and tells whether the record has been written. Nothing is written while there is
no record, and a record that has changed since it was read is left for the next time. -/
def publish : Dialogue Call Call.Answer (Except Failure Bool) := do
  -- The ledger is taken first, so what is recorded meanwhile is for the next publication.
  let (any, ours) ← Dialogue.call Call.ledger
  if !any then return .ok false
  match ← Dialogue.call Call.read with
  | .error failure => return .error failure
  | .ok none => return .ok false
  | .ok (some current) =>
    match merge current.objects ours with
    | none => return .ok false
    | some merged =>
      match ← Dialogue.call (Call.write current.resourceVersion merged) with
      | .ok () => return .ok true
      | .error failure => if failure.isConflict then return .ok false else return .error failure

/-- A publication through the API, for a ledger as it is when the publication begins. -/
def publishThrough (ledger : Bool × List RelatedObject) : Api.Exchange (Except Failure Bool) :=
  -- Only the two calls about the record need the API.
  publish.via fun
    | .ledger => .done ledger
    | .read => Api.relatedObjects
    | .write version objects => Api.patchRelatedObjects version objects

end CsiOperator.Publication
