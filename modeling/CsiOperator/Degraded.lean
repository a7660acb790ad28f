import CsiOperator.Dialogue
import CsiOperator.Failure
import CsiOperator.Resource.Storage

/-! The condition that tells whether the last sync failed. -/

namespace CsiOperator.Degraded

open Time (Timestamp)

/-- The type of the condition. -/
def conditionType : String := "CSIDriverStarterDegraded"

/-- The reason after a sync that succeeded. -/
def asExpected : String := "AsExpected"

/-- The reason after a sync that failed. -/
def syncError : String := "SyncError"

/-- The condition after a sync, which holds when the sync failed. -/
def condition [Decode.Wording] (failure : Option Failure) (now : Timestamp) : Condition :=
  -- A failure makes the condition hold, since it is the lack of something that is reported.
  match failure with
  | some failure => ⟨conditionType, .holds, syncError, failure.message, now⟩
  | none => ⟨conditionType, .fails, asExpected, "", now⟩

/-- What a report asks of its surroundings. -/
inductive Call where
  /-- The time. -/
  | now
  /-- Replacing the conditions of a storage. -/
  | write (name : String) (conditions : List Condition)
  deriving Repr

/-- What comes back for a call. -/
abbrev Call.Answer : Call → Type
  | .now => Timestamp
  | .write _ _ => Except Failure Unit

/-- Reports the outcome of a sync on a storage, unless its conditions tell it already. -/
def report [Decode.Wording] (storage : Storage) (failure : Option Failure) :
    Dialogue Call Call.Answer (Except Failure Unit) :=
  -- The time is asked for in any case, and the write goes for all conditions at once.
  .ask .now fun now =>
    match (condition failure now).set storage.conditions with
    | none => .done (.ok ())
    | some conditions => .ask (.write storage.metadata.anyName conditions) .done

end CsiOperator.Degraded
