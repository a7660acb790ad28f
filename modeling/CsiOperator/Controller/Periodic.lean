import CsiOperator.Failure
import CsiOperator.Wake

/-! Syncing again and again until the operator stops. -/

namespace CsiOperator.Controller

/-- How long a controller waits after a sync, and when it is stopped. -/
structure Periodic where
  /-- The time from the end of a sync to the next one. -/
  resync : Nat
  /-- When it is stopped. -/
  stop : Nat
  deriving DecidableEq, Repr

namespace Periodic

/-- The milliseconds from the end of a sync to the next one, if nothing else is wanted. -/
def defaultResync : Nat := 60000

/-- What ends the wait after a sync that has ended at a time. -/
def wake (p : Periodic) (ended : Nat) (takesDue : Bool) : Wake :=
  .next p.stop ended (ended + p.resync) takesDue

/-- Syncs at a time and from then on, at most as often as there is fuel. A sync that begins at a time
tells when it ends and how, and is never broken off. Where the next sync is due together with the stop,
it is told which of them is taken. What is returned is when the controller ends. -/
def run {m : Type → Type} [Monad m] (p : Periodic) (sync : Nat → m (Nat × Except Failure Unit))
    (takesDue : Nat → m Bool) : (fuel time : Nat) → m (Option Nat)
  | 0, _ => pure none
  | fuel + 1, time => do
    -- A failure is left to the next sync.
    let (ended, _) ← sync time
    match p.wake ended (← takesDue (ended + p.resync)) with
    | .due time => p.run sync takesDue fuel time
    | .stop time => return some time

/-- The first of the entries with the least time, and the other entries. -/
def earliest {α : Type} : List (Nat × α) → Option ((Nat × α) × List (Nat × α))
  -- Of two entries with one time the one in front comes first.
  | [] => none
  | entry :: rest =>
    match earliest rest with
    | none => some (entry, [])
    | some (least, others) =>
      if entry.1 ≤ least.1 then some (entry, rest) else some (least, entry :: others)

/-- Lets controllers sync side by side, each from the time in the agenda on, at most as often as there
is fuel altogether. -/
def runAll {m : Type → Type} [Monad m] {α : Type} (p : Periodic)
    (sync : α → Nat → m (Nat × Except Failure Unit)) (takesDue : Nat → m Bool) :
    (fuel : Nat) → List (Nat × α) → m Unit
  -- A controller that goes on is put behind the others, which may be due at the same time.
  | 0, _ => pure ()
  | fuel + 1, agenda =>
    match earliest agenda with
    | none => pure ()
    | some ((time, controller), rest) => do
      let (ended, _) ← sync controller time
      match p.wake ended (← takesDue (ended + p.resync)) with
      | .due time => p.runAll sync takesDue fuel (rest ++ [(time, controller)])
      | .stop _ => p.runAll sync takesDue fuel rest

end Periodic

end CsiOperator.Controller
