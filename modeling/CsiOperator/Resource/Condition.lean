import CsiOperator.Decode.Instant

/-! Status conditions, and how a new one enters a list of them. -/

namespace CsiOperator

open Decode
open Time (Timestamp)

/-- Whether a condition holds. -/
inductive ConditionStatus where
  /-- The condition holds. -/
  | holds
  /-- The condition does not hold. -/
  | fails
  /-- Nobody knows. -/
  | unknown
  deriving DecidableEq, Repr, Inhabited

namespace ConditionStatus

/-- The name of a status in documents. -/
def name : ConditionStatus → String
  | holds => "True"
  | fails => "False"
  | unknown => "Unknown"

/-- The status that a name stands for. -/
def ofName? (name : String) : Option ConditionStatus :=
  [holds, fails, unknown].find? fun s => s.name == name

/-- A status keeps its name through documents. -/
theorem ofName?_name (s : ConditionStatus) : ofName? s.name = some s := by
  cases s <;> decide +kernel

/-- Reads a status by name. -/
def read {ν : Type} [Source ν] (node : ν) : Read ConditionStatus :=
  variant ofName? node

end ConditionStatus

/-- One observation about an operator. -/
structure Condition where
  /-- What is observed. -/
  type : String
  /-- Whether it holds. -/
  status : ConditionStatus
  /-- Why, in one word for programs. -/
  reason : String
  /-- Why, in words for people. -/
  message : String
  /-- When the status last changed. -/
  lastTransitionTime : Timestamp
  deriving DecidableEq, Repr, Inhabited

namespace Condition

/-- A condition of which some fields have been read. -/
structure Draft where
  /-- The type, once read. -/
  type : Option String
  /-- The status, once read. -/
  status : Option ConditionStatus
  /-- The reason, once read. -/
  reason : Option String
  /-- The message, once read. -/
  message : Option String
  /-- The time of the last transition, once read. -/
  time : Option Timestamp

/-- The fields of a condition in order. -/
def fields {ν : Type} [Source ν] : List (Field ν Draft) := [
  -- A reason and a message may be left out, and the time may not.
  ⟨"type", (·.type.isSome), fun d n => return { d with type := some (← text n) }, .never⟩,
  ⟨"status", (·.status.isSome),
    fun d n => return { d with status := some (← ConditionStatus.read n) }, .never⟩,
  ⟨"reason", (·.reason.isSome), fun d n => return { d with reason := some (← text n) }, .anywhere⟩,
  ⟨"message", (·.message.isSome), fun d n => return { d with message := some (← text n) },
    .anywhere⟩,
  ⟨"lastTransitionTime", (·.time.isSome),
    fun d n => return { d with time := some (← instant n) }, .never⟩]

/-- Reads a condition; an absent reason or message is empty. -/
def read {ν : Type} [Source ν] (node : ν) : Read Condition := do
  -- An absent text and an empty one are not told apart.
  let d ← record fields ⟨none, none, none, none, none⟩ node
  return {
    type := ← present "type" d.type
    status := ← present "status" d.status
    reason := d.reason.getD ""
    message := d.message.getD ""
    lastTransitionTime := ← present "lastTransitionTime" d.time }

/-- A text that is left out when it is empty. -/
def unlessEmpty (s : String) : Option Json :=
  if s.isEmpty then none else some (.text s)

/-- A condition as a value; an empty reason or message is left out. -/
def toJson (c : Condition) : Json :=
  -- An empty text is not written, so it is read as an absent one.
  .record [
    ("type", some (.text c.type)),
    ("status", some (.text c.status.name)),
    ("reason", unlessEmpty c.reason),
    ("message", unlessEmpty c.message),
    ("lastTransitionTime", some (.text c.lastTransitionTime.text))]

/-- Conditions that tell the same, whenever they began to. -/
def sameState (a b : Condition) : Bool :=
  a.type == b.type && a.status == b.status && a.reason == b.reason && a.message == b.message

/-- A new condition over an old one of its type: the time stays unless the status changes. -/
def replacing (new old : Condition) : Condition :=
  if old.status == new.status then { new with lastTransitionTime := old.lastTransitionTime } else new

/-- Puts a condition in the place of the first one of its type, or at the end. Nothing is returned
when that one tells the same already. -/
def set (new : Condition) : List Condition → Option (List Condition)
  -- Only the first condition of the type is looked at; later ones stay as they are.
  | [] => some [new]
  | old :: rest =>
    if old.type == new.type then
      if old.sameState new then none else some (new.replacing old :: rest)
    else (set new rest).map (old :: ·)

end Condition

end CsiOperator
