import CsiOperator.Proofs.Starter.Run
import Mathlib.Logic.Function.Basic

/-! Calls that overlap: each may be suspended at every question, and dropped there. -/

namespace CsiOperator.Starter

/-- The question goes to one of the readers. -/
def Call.reads : Call → Bool
  -- Getting hold of the operator, giving it back and announcing ask nobody for the cluster.
  | .managementState | .infrastructure _ | .featureGate _ => true
  | _ => false

/-- What comes back from outside. Who gets hold of the operator is decided among the callers. -/
def Readings.answer? (r : Readings) : (q : Call) → Option q.Answer
  -- A call asks each reader at most once, so that one answer from each of them is general enough.
  | .managementState => some r.managementState
  | .infrastructure name => some (r.infrastructure name)
  | .featureGate name => some (r.featureGate name)
  | .announce _ _ => some ()
  | .acquire | .release _ _ => none

/-- Something that happens to one call. -/
inductive Event where
  /-- The call has got hold of the operator. -/
  | acquired
  /-- The call has put a question to a reader or an announcement to the publisher. -/
  | asked (question : Call)
  /-- The call has got an answer. -/
  | answered (question : Call)
  /-- The call has given the operator back, with the bundles that it has started. -/
  | released (starts : List Start)
  /-- The call has returned. -/
  | returned (reply : Reply)
  /-- The call has been dropped. -/
  | dropped

/-- An operator and any number of calls of it, which are told apart by numbers. -/
structure Crowd where
  /-- The operator. -/
  starter : Starter
  /-- The call that has got hold of it. -/
  holder : Option Nat
  /-- What is left of each call; nothing once it has been dropped. -/
  pending : Nat → Option (Routine Reply)
  /-- What has happened so far. -/
  log : List (Nat × Event)

namespace Crowd

/-- The calls before any of them has begun. -/
def start (visits : Nat → Visit) (s : Starter) : Crowd :=
  ⟨s, none, fun i => some (visits i).demand.routine, []⟩

/-- Something happens to a call. -/
def note (w : Crowd) (i : Nat) (event : Event) : Crowd :=
  { w with log := w.log ++ [(i, event)] }

/-- A call is suspended with something left to do. -/
def suspend (w : Crowd) (i : Nat) (rest : Routine Reply) : Crowd :=
  { w with pending := Function.update w.pending i (some rest) }

/-- A call goes on until it returns or has to wait. Giving the operator back takes no waiting. -/
def proceed (i : Nat) : Routine Reply → Crowd → Crowd
  -- Only giving back is done at once; every other question suspends the call.
  | .done reply, w => (w.suspend i (.done reply)).note i (.returned reply)
  | .ask (.release starter starts) next, w =>
    proceed i (next ()) ({ w with starter, holder := none }.note i (.released starts))
  | .ask .acquire next, w => w.suspend i (.ask .acquire next)
  | .ask question next, w => (w.suspend i (.ask question next)).note i (.asked question)

/-- A suspended call gets what it waits for, if it can have it, and goes on. -/
def advance (visits : Nat → Visit) (i : Nat) (w : Crowd) : Crowd :=
  match w.pending i with
  | some (.ask .acquire next) =>
    -- The operator is had by one call at a time.
    if w.holder = none then
      ({ w with holder := some i }.note i .acquired).proceed i (next w.starter)
    else w
  | some (.ask question next) =>
    match (visits i).answer? question with
    | some answer => (w.note i (.answered question)).proceed i (next answer)
    | none => w
  | _ => w

/-- A suspended call is dropped, and whatever it has got hold of becomes free. -/
def drop (i : Nat) (w : Crowd) : Crowd :=
  -- A call that has returned is not pending, so it cannot be dropped.
  match w.pending i with
  | some (.ask _ _) =>
    { w with
      holder := if w.holder = some i then none else w.holder
      pending := Function.update w.pending i none }.note i .dropped
  | _ => w

end Crowd

/-- What happens next: one call goes on or is dropped. -/
inductive Action where
  /-- A call goes on. -/
  | advance (i : Nat)
  /-- A call is dropped. -/
  | drop (i : Nat)

namespace Crowd

/-- One action; one that is impossible changes nothing. -/
def step (visits : Nat → Visit) (w : Crowd) : Action → Crowd
  -- Actions are possible or not by the state that they find.
  | .advance i => w.advance visits i
  | .drop i => w.drop i

/-- Any order of actions. -/
def run (visits : Nat → Visit) (w : Crowd) (schedule : List Action) : Crowd :=
  schedule.foldl (step visits) w

end Crowd

namespace Event

/-- The calls that have got hold of the operator, in order. -/
def acquisitions (log : List (Nat × Event)) : List Nat :=
  -- A call gets hold of the operator at most once.
  log.filterMap fun
    | (i, .acquired) => some i
    | _ => none

/-- The calls that have given the operator back, in order. -/
def releases (log : List (Nat × Event)) : List Nat :=
  log.filterMap fun
    | (i, .released _) => some i
    | _ => none

/-- The bundles that have been started, in order. -/
def started (log : List (Nat × Event)) : List Start :=
  -- The starts of one call come together when it gives the operator back.
  log.flatMap fun
    | (_, .released starts) => starts
    | _ => []

/-- The calls that have asked readers or got answers from them, in order. -/
def readings (log : List (Nat × Event)) : List Nat :=
  log.filterMap fun
    | (i, .asked question) | (i, .answered question) => if question.reads then some i else none
    | _ => none

/-- The operator does not change hands. -/
def silent : Event → Bool
  -- These two events are all by which the operator changes hands.
  | .acquired | .released _ => false
  | _ => true

section Views

variable (earlier later : List (Nat × Event))

@[simp] theorem acquisitions_append :
    acquisitions (earlier ++ later) = acquisitions earlier ++ acquisitions later :=
  List.filterMap_append

@[simp] theorem releases_append :
    releases (earlier ++ later) = releases earlier ++ releases later :=
  List.filterMap_append

@[simp] theorem started_append : started (earlier ++ later) = started earlier ++ started later :=
  List.flatMap_append

@[simp] theorem readings_append :
    readings (earlier ++ later) = readings earlier ++ readings later :=
  List.filterMap_append

end Views

end Event

end CsiOperator.Starter
