import CsiOperator.Proofs.Resource.Stored
import CsiOperator.Proofs.Starter.Reconcile

/-! Once a report has been stored, a report of the same outcome has nothing to write. -/

namespace CsiOperator.Degraded

open Api (Server)
open Json (Distinct merge)
open Starter.Round (condition_type)
open Time (Timestamp)

/-- The time of a condition that is set is its own or that of the one it replaces. -/
theorem set_times {P : Timestamp → Prop} {new : Condition} {conditions changed : List Condition}
    (set : new.set conditions = some changed) (own : P new.lastTransitionTime)
    (others : ∀ c ∈ conditions, P c.lastTransitionTime) :
    ∀ c ∈ changed, P c.lastTransitionTime := by
  -- Only the new condition comes in, or replaces one whose time it may take over.
  induction conditions generalizing changed with
  | nil =>
    obtain rfl : [new] = changed := Option.some.inj set
    simpa using own
  | cons old rest ih =>
    obtain ⟨first, later⟩ := List.forall_mem_cons.mp others
    rw [Condition.set] at set
    split at set
    · split at set
      · cases set
      · obtain rfl := Option.some.inj set
        refine List.forall_mem_cons.mpr ⟨?_, later⟩
        rw [Condition.replacing]
        split
        · exact first
        · exact own
    · obtain ⟨changedRest, setRest, rfl⟩ := Option.map_eq_some_iff.mp set
      exact List.forall_mem_cons.mpr ⟨first, ih setRest later⟩

/-- A storage that is stored and read without repeated names. -/
structure Stored (object : Json) (storage : Storage) : Prop where
  /-- It is an object without repeated names. -/
  distinct : ∃ entries, object = .object entries ∧ object.Distinct
  /-- The storage is read from its text. -/
  decodes : Json.decode Storage.read object.compact = .ok storage

/-- The times of the conditions that are read can be told. -/
theorem Stored.times {object : Json} {storage : Storage} (stored : Stored object storage) :
    ∀ c ∈ storage.conditions, c.lastTransitionTime.Valid := by
  -- The object has been read from a JSON text, whose doubles are sound.
  obtain ⟨reads, -⟩ := (Decode.decode_ok_iff ..).mp stored.decodes
  exact Storage.read_times (Json.ofText_sound object.compact) reads

/-- A server that is asked to replace the conditions of a storage has it with the new ones. -/
theorem Stored.mergeStatus {s : Server} {path : String} {object : Json} {storage : Storage}
    (there : s.objects.lookup path = some object) (stored : Stored object storage)
    {conditions : List Condition} (valid : ∀ c ∈ conditions, c.lastTransitionTime.Valid) :
    ∃ object' storage',
      (s.mergeStatus path (Api.conditionsChange conditions)).2.objects.lookup path =
        some object' ∧ Stored object' storage' ∧ storage'.conditions = conditions ∧
      storage'.managementState = storage.managementState ∧
      storage'.metadata.anyName = storage.metadata.anyName := by
  -- The storage is read from the text of the object, and so is the one that takes its place.
  obtain ⟨⟨entries, rfl, distinct⟩, decodes⟩ := stored
  rw [Json.decode_compact] at decodes
  obtain ⟨isObject, storage', reads, same⟩ :=
    Storage.replaced distinct decodes valid (s.version + 1)
  refine ⟨_, storage', ?_, ⟨isObject, (Json.decode_compact ..).trans reads⟩, same⟩
  -- The change names no version, so that it is not refused.
  rw [Server.mergeStatus, there]
  exact List.lookup_cons_self ..

/-- A report is told the time and what comes of writing; it leaves behind what it has written. -/
def attend (now : Timestamp) (result : Except Failure Unit) :
    (q : Call) → StateM (List (String × List Condition)) q.Answer
  -- What is written is kept whether it succeeds or not.
  | .now => pure now
  | .write name conditions => do
    modify (· ++ [(name, conditions)])
    return result

variable [Decode.Wording]

/-- What there is to say about the outcome of a sync: nothing, or the words of its failure. -/
def words (failure : Option Failure) : Option String :=
  failure.map Failure.message

/-- What the condition tells depends on the words alone. -/
theorem condition_told {failure failure' : Option Failure} (same : words failure' = words failure)
    (now later : Timestamp) : (condition failure' later).told = (condition failure now).told := by
  -- Two failures with the same words make the same condition, and so do two successes.
  cases failure with
  | none =>
    obtain rfl : failure' = none := by simpa [words] using same
    rfl
  | some f =>
    obtain ⟨f', rfl, message⟩ := Option.map_eq_some_iff.mp same
    simp [condition, Condition.told, message]

/-- The condition bears the time of the report. -/
theorem condition_time (failure : Option Failure) (now : Timestamp) :
    (condition failure now).lastTransitionTime = now := by
  cases failure <;> rfl

/-- Conditions tell an outcome already, so that a report of it changes nothing. -/
def Settled (conditions : List Condition) (outcome : Option String) : Prop :=
  ∀ failure now, words failure = outcome → (condition failure now).set conditions = none

/-- Conditions into which an outcome has been put tell it. -/
theorem settled_of_set {failure : Option Failure} {now : Timestamp}
    {conditions changed : List Condition}
    (set : (condition failure now).set conditions = some changed) :
    Settled changed (words failure) := by
  -- A later report of the same outcome tells the same, whatever its time is.
  intro failure' later same
  -- The first condition of the type tells the outcome, and a report looks at no other one.
  rw [Condition.set_eq_none_iff, condition_type, condition_told same now later,
    ← condition_type failure now]
  exact Condition.set_told set

/-- Conditions that a report leaves as they are tell its outcome. -/
theorem settled_of_none {failure : Option Failure} {now : Timestamp} {conditions : List Condition}
    (set : (condition failure now).set conditions = none) : Settled conditions (words failure) := by
  -- A later report of the same outcome tells the same, whatever its time is.
  intro failure' later same
  -- That the report has changed nothing is itself about what the first condition of the type tells.
  rw [Condition.set_eq_none_iff] at set ⊢
  rw [condition_type, condition_told same now later, ← condition_type failure now]
  exact set

/-- What a report writes. -/
def writes (storage : Storage) (failure : Option Failure) (now : Timestamp)
    (result : Except Failure Unit) : List (String × List Condition) :=
  -- Only the record of the writes is looked at, and not the reply.
  (((report storage failure).run (attend now result)).run []).2

/-- A report asks for the time, and then writes if the new condition changes anything. -/
theorem report_eq (storage : Storage) (failure : Option Failure) :
    report storage failure = .ask .now fun now =>
      ((condition failure now).set storage.conditions).elim (.done (.ok ()))
        fun conditions => .ask (.write storage.metadata.anyName conditions) .done := by
  -- Only the time is needed to see whether the new condition changes anything.
  refine congrArg (Dialogue.ask Call.now) (funext fun now => ?_)
  cases (condition failure now).set storage.conditions <;> rfl

/-- A report writes the conditions into which the new one has been put, if that changes them. -/
theorem writes_eq (storage : Storage) (failure : Option Failure) (now : Timestamp)
    (result : Except Failure Unit) : writes storage failure now result =
      ((condition failure now).set storage.conditions).toList.map (storage.metadata.anyName, ·) := by
  -- The report is run with the time that it is told.
  rw [writes, report_eq]
  show (((((condition failure now).set storage.conditions).elim (.done (.ok ()))
    fun conditions => .ask (.write storage.metadata.anyName conditions) .done :
      Dialogue Call Call.Answer (Except Failure Unit)).run (attend now result)).run []).2 = _
  cases (condition failure now).set storage.conditions <;> rfl

end CsiOperator.Degraded
