import CsiOperator.Failure
import CsiOperator.Wake

/-! Publishing again and again until the operator stops. -/

namespace CsiOperator.Publication

/-- When a publisher publishes, and when it is stopped. -/
structure Publisher where
  /-- The time from one tick to the next; the first one is at once. -/
  interval : Nat
  /-- When it is stopped. -/
  stop : Nat
  deriving DecidableEq, Repr

namespace Publisher

/-- Publishes tick by tick, at most as often as there is fuel. A publication that begins at a time tells
when it ends and how; the next one does not begin before, so that ticks may be overdue by then. Where a
tick is due together with the stop, it is told which of them is taken. What is returned is when the
publisher ends. -/
def run {m : Type → Type} [Monad m] (p : Publisher)
    (publication : Nat → m (Nat × Except Failure Bool)) (takesTick : Nat → m Bool) :
    (fuel now due : Nat) → m (Option Nat)
  | 0, _, _ => pure none
  | fuel + 1, now, due => do
    match Wake.next p.stop now due (← takesTick (max now due)) with
    | .stop time => return some time
    | .due time =>
      -- A failure is left to the next publication.
      let (ended, _) ← publication time
      p.run publication takesTick fuel ended (due + p.interval)

end Publisher

end CsiOperator.Publication
