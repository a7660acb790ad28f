import CsiOperator.Starter.Reconcile

/-! When the operator reconciles: at once when something changes, and from time to time. -/

namespace CsiOperator.Watch

/-- When the next reconciliation is due, if one is. Times are in milliseconds. -/
abbrev Agenda := Option Nat

namespace Agenda

/-- The earlier of a time and what is due already. -/
def noLaterThan (agenda : Agenda) (time : Nat) : Agenda :=
  -- A time that is due already is kept if it is earlier.
  some (match agenda with
    | none => time
    | some due => min due time)

/-- When to reconcile again after a reconciliation that ended at a time. -/
def again (time : Nat) : Except Failure Nat → Nat
  -- Seconds are told, and times are counted in thousandths of them.
  | .ok seconds => time + seconds * 1000
  | .error _ => time + Starter.retrySeconds * 1000

/-- Reconciles whenever it is due before a time, at most as often as there is fuel. A reconciliation at a
time tells its outcome, unless there was nothing to reconcile, and whether it has changed what is
watched. -/
def run {m : Type → Type} [Monad m] (reconcile : Nat → m (Option (Except Failure Nat) × Bool))
    (limit : Nat) : (fuel : Nat) → Agenda → m Agenda
  -- A reconciliation that changes the object is due again at once, since it is told of its own
  -- change.
  | 0, agenda => pure agenda
  | _ + 1, none => pure none
  | fuel + 1, some due =>
    if limit ≤ due then pure (some due) else do
      let (outcome, changed) ← reconcile due
      let agenda : Agenda := outcome.map (again due)
      run reconcile limit fuel (if changed then agenda.noLaterThan due else agenda)

end Agenda

end CsiOperator.Watch
