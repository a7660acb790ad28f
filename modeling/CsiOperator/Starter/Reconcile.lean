import CsiOperator.Degraded
import CsiOperator.Starter.Sync

/-! A sync for a storage at hand, and the report of its outcome. -/

namespace CsiOperator.Starter

/-- The seconds until the next attempt after a failure. -/
def retrySeconds : Nat := 5

/-- Syncs and reports the outcome. What is returned is how many seconds later to reconcile again; the
failure of a sync counts before a failure to report it. -/
def reconcile [Decode.Wording] (resync : Nat) (storage : Storage) :
    Dialogue (Call ⊕ Degraded.Call) (Sum.elim Call.Answer Degraded.Call.Answer)
      (Except Failure Nat) := do
  -- The failure of a sync is told before that of its report, which is dropped then.
  match ← (syncObserved storage).left with
  | .ok _ =>
    match ← (Degraded.report storage none).right with
    | .ok () => return .ok resync
    | .error failure => return .error failure
  | .error failure =>
    let _ ← (Degraded.report storage (some failure)).right
    return .error failure

end CsiOperator.Starter
