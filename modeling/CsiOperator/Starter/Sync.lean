import CsiOperator.Announcement
import CsiOperator.Dialogue
import CsiOperator.Starter.Basic

/-! One look at the cluster: read it, start what is due, and announce it. -/

namespace CsiOperator.Starter

/-- What a sync asks of its surroundings. -/
inductive Call where
  /-- The operator, which nobody else gets hold of until it is given back. -/
  | acquire
  /-- The management state. -/
  | managementState
  /-- The infrastructure of a name. -/
  | infrastructure (name : String)
  /-- The feature gate of a name. -/
  | featureGate (name : String)
  /-- Giving the operator back, with the bundles that have been started. -/
  | release (starter : Starter) (starts : List Start)
  /-- Announcing something about an object. -/
  | announce (about : Reference) (what : Announcement)
  deriving Repr

/-- What comes back for a call. -/
abbrev Call.Answer : Call → Type
  | .acquire => Starter
  | .managementState => Except Failure (Option ManagementState)
  | .infrastructure _ => Except Failure Infrastructure
  | .featureGate _ => Except Failure FeatureGate
  | .release _ _ => Unit
  | .announce _ _ => Unit

/-- A computation around an operator. -/
abbrev Routine (α : Type) := Dialogue Call Call.Answer α

/-- Reads what decides which bundles run; nothing unless the operator is managed. -/
def survey (state : Routine (Except Failure (Option ManagementState))) :
    Routine (Except Failure (Option (Infrastructure × FeatureGate))) := do
  -- The readers are asked only as long as their answers are needed.
  match ← state with
  | .error failure => return .error failure
  | .ok (some .managed) =>
    match ← Dialogue.call (Call.infrastructure clusterName) with
    | .error failure => return .error failure
    | .ok infrastructure =>
      match ← Dialogue.call (Call.featureGate clusterName) with
      | .error failure => return .error failure
      | .ok gate => return .ok (some (infrastructure, gate))
  | .ok _ => return .ok none

/-- Announces the bundles that have been started, one after another. -/
def announceAll : List Start → Routine Unit
  | [] => .done ()
  | start :: rest =>
    .ask (.announce Reference.storage (.driverStarted start.descriptor.driver))
      fun () => announceAll rest

/-- Starts every bundle that is due and tells the names of those started. Nothing is started when the
operator is not managed, or when anything cannot be read. -/
def syncWith (state : Routine (Except Failure (Option ManagementState))) :
    Routine (Except Failure (List String)) := do
  -- The operator is given back before anything is announced, so that a slow publisher holds up
  -- nobody.
  let starter ← Dialogue.call Call.acquire
  match ← survey state with
  | .error failure =>
    Dialogue.call (Call.release starter [])
    return .error failure
  | .ok none =>
    Dialogue.call (Call.release starter [])
    return .ok []
  | .ok (some (infrastructure, gate)) =>
    let (activated, starts) := starter.activate infrastructure gate
    Dialogue.call (Call.release activated starts)
    announceAll starts
    return .ok (starts.map (·.descriptor.conditionPrefix))

/-- A sync that reads the management state. -/
def sync : Routine (Except Failure (List String)) :=
  syncWith (Dialogue.call Call.managementState)

/-- A sync that takes the management state from an object at hand. -/
def syncObserved (storage : Storage) : Routine (Except Failure (List String)) :=
  syncWith (.done (.ok storage.managementState))

/-- The names of the running bundles, once nobody else has the operator. -/
def runningNow : Routine (List String) := do
  -- Nothing changes, but the answer has to wait for whoever has the operator.
  let starter ← Dialogue.call Call.acquire
  Dialogue.call (Call.release starter [])
  return starter.running

end CsiOperator.Starter
