import CsiOperator.Proofs.Resource.Condition
import CsiOperator.Proofs.Starter.Round

/-! Over any run of reconciles the degraded condition tells what the last sync came to. -/

namespace CsiOperator.Starter

section

variable [Decode.Wording]

/-- What the degraded condition should tell after a sync: its status, its reason and its message. -/
def tells : Reply → ConditionStatus × String × String
  -- Only a failure has a message.
  | .error failure => (.holds, "SyncError", failure.message)
  | .ok _ => (.fails, "AsExpected", "")

namespace Round

variable (r : Round) (resync : Nat) (s : Situation)

/-- The condition that a report sets tells what the sync came to. -/
theorem condition_told :
    (Degraded.condition (r.failure s) r.now).told = tells (r.outcome s) := by
  -- The wording of both outcomes is fixed, apart from the message of a failure.
  unfold failure
  cases r.outcome s <;> rfl

/-- The condition that a report sets is the degraded condition. -/
theorem condition_type (failure : Option Failure) (now : Time.Timestamp) :
    (Degraded.condition failure now).type = Degraded.conditionType := by
  cases failure <;> rfl

/-- Nothing is sent exactly when the object tells what the sync came to already. -/
theorem sent_eq_none_iff : r.sent s = none ↔
    (s.storage.condition? Degraded.conditionType).map Condition.told =
      some (tells (r.outcome s)) := by
  -- A reconcile finds the object with the conditions that it had before.
  rw [sent, Condition.set_eq_none_iff, condition_told, condition_type]
  rfl

/-- The conditions of the object change when some are sent and can be written. -/
theorem reconcile_conditions : (r.reconcile resync s).situation.storage.conditions =
    match r.sent s, r.written with
    | some conditions, .ok () => conditions
    | _, _ => s.storage.conditions := by
  -- The conditions can only change by what is sent, and only if that is written.
  rw [reconcile_eq]
  cases r.sent s with
  | none => rfl
  | some conditions =>
    simp only [stored]
    cases r.written <;> rfl

/-- Once its conditions are as they should be, the object tells what the sync came to. -/
theorem reconcile_told (settled : r.sent s = none ∨ r.written = .ok ()) :
    ((r.reconcile resync s).situation.storage.condition? Degraded.conditionType).map
      Condition.told = some (tells (r.outcome s)) := by
  -- Either the object has told it before, or the new condition does.
  rw [Storage.condition?, reconcile_conditions]
  cases sent : r.sent s with
  | none => exact (r.sent_eq_none_iff s).mp sent
  | some conditions =>
    have written : r.written = .ok () := by simpa [sent] using settled
    have told := Condition.set_told sent
    rw [condition_told, condition_type] at told
    simpa only [written] using told

end Round

/-- What reconciles keep of the object that they began with. -/
structure Tended (initial : Storage) (s : Situation) : Prop where
  /-- Its identity. -/
  metadata : s.storage.metadata = initial.metadata
  /-- That no two conditions have one type. -/
  distinct : (s.storage.conditions.map (·.type)).Nodup
  /-- The conditions of other types. -/
  others : s.storage.conditions.filter (·.type ≠ Degraded.conditionType) =
    initial.conditions.filter (·.type ≠ Degraded.conditionType)

namespace Tended

variable {initial : Storage} {s : Situation}

/-- One reconcile keeps it. -/
theorem reconcile (kept : Tended initial s) (r : Round) (resync : Nat) :
    Tended initial (r.reconcile resync s).situation := by
  -- Metadata is never sent, so what is stored keeps it.
  have metadata : (r.reconcile resync s).situation.storage.metadata = s.storage.metadata := by
    rw [Round.reconcile_eq]
    cases r.sent s with
    | none => rfl
    | some conditions =>
      simp only [Round.stored]
      cases r.written <;> rfl
  have conditions := r.reconcile_conditions resync s
  -- Only conditions that are sent and written differ from those before.
  cases sent : r.sent s with
  | none =>
    simp only [sent] at conditions
    exact ⟨metadata.trans kept.metadata, conditions ▸ kept.distinct, conditions ▸ kept.others⟩
  | some changed =>
    cases written : r.written with
    | error failure =>
      simp only [sent, written] at conditions
      exact ⟨metadata.trans kept.metadata, conditions ▸ kept.distinct, conditions ▸ kept.others⟩
    | ok =>
      simp only [sent, written] at conditions
      have others := Condition.set_others sent
      rw [Round.condition_type] at others
      refine ⟨metadata.trans kept.metadata, ?_, ?_⟩
      · rw [conditions]
        exact Condition.set_distinct sent kept.distinct
      · rw [conditions, others]
        exact kept.others

/-- Any run of reconciles keeps it. -/
theorem after (kept : Tended initial s) (resync : Nat) (rounds : List Round) :
    Tended initial (Situation.after resync s rounds) := by
  -- By induction on the rounds, along which each reconcile keeps it.
  induction rounds generalizing s with
  | nil => exact kept
  | cons r rest ih => exact ih (kept.reconcile r resync)

end Tended

/--
After any run of reconciles, the next one leaves the outcome of its sync in the degraded condition.

It writes only when the condition has to change, and a failure to write it is returned only when the
sync has not failed itself.
-/
theorem reconcile_tells_outcome {initial : Storage}
    (distinct : (initial.conditions.map (·.type)).Nodup) (starter : Starter) (resync : Nat)
    (earlier : List Round) (round : Round) :
    let before := Situation.after resync ⟨starter, initial⟩ earlier
    let outcome := round.outcome before
    let report := round.reconcile resync before
    let storage := report.situation.storage
    -- Unless a write has failed, there is one degraded condition, and it tells the outcome.
    (report.writes = [] ∨ round.written = .ok () → ∃ c,
      storage.conditions.filter (·.type == Degraded.conditionType) = [c] ∧
        c.told = tells outcome) ∧
    -- The conditions of other types stay, and a write that fails leaves all of them as they are.
    storage.conditions.filter (·.type ≠ Degraded.conditionType) =
      initial.conditions.filter (·.type ≠ Degraded.conditionType) ∧
    (∀ failure, round.written = .error failure → storage.conditions = before.storage.conditions) ∧
    -- There is one write when the condition tells something else, and none otherwise.
    report.writes.length = (if
      (before.storage.condition? Degraded.conditionType).map Condition.told = some (tells outcome)
      then 0 else 1) ∧
    (∀ write ∈ report.writes, write.1 = initial.metadata.anyName) ∧
    -- The failure of the sync counts before that of the write.
    (∀ failure, outcome = .error failure → report.reply = .error failure) ∧
    ∀ started, outcome = .ok started →
      (∀ failure, report.reply = .error failure ↔
        report.writes ≠ [] ∧ round.written = .error failure) ∧
      (report.writes = [] ∨ round.written = .ok () → report.reply = .ok resync) := by
  -- The earlier rounds keep the types apart, so the last one sets one condition at most.
  intro before outcome report storage
  have kept : Tended initial before :=
    Tended.after (s := ⟨starter, initial⟩) ⟨rfl, distinct, rfl⟩ resync earlier
  have next : Tended initial report.situation := kept.reconcile round resync
  have shape : report = _ := round.reconcile_eq resync before
  -- Whether anything has been written can be seen from the conditions to be sent.
  have idle : report.writes = [] ↔ round.sent before = none := by
    rw [shape]
    cases round.sent before <;> simp
  refine ⟨?_, next.others, ?_, ?_, ?_, ?_, ?_⟩
  · intro settled
    rw [idle] at settled
    have told := round.reconcile_told resync before settled
    obtain ⟨c, first, tell⟩ := Option.map_eq_some_iff.mp told
    exact ⟨c, Condition.filter_type_of_find next.distinct first, tell⟩
  · -- Conditions that have been sent do not count when they cannot be written.
    intro failure failed
    have conditions := round.reconcile_conditions resync before
    rw [failed] at conditions
    cases sent : round.sent before with
    | none => simpa only [sent] using conditions
    | some changed => simpa only [sent] using conditions
  · have tells := round.sent_eq_none_iff before
    rw [shape]
    cases sent : round.sent before with
    | none =>
      rw [if_pos (tells.mp sent)]
      rfl
    | some conditions =>
      have differs := mt tells.mpr (by simp [sent])
      rw [if_neg differs]
      rfl
  · intro write member
    rw [shape] at member
    obtain ⟨conditions, -, rfl⟩ := List.mem_map.mp member
    exact congrArg Metadata.anyName kept.metadata
  · -- A failed sync decides what is returned, whatever has come of the report.
    intro failure failed
    rw [shape]
    simp only [show round.outcome before = .error failure from failed]
  · intro started succeeded
    rw [idle, shape]
    simp only [show round.outcome before = .ok started from succeeded]
    cases round.sent before with
    | none => simp
    | some conditions => cases round.written <;> simp [Except.map]

end

/-- A reconcile of a managed operator, with what comes of writing the conditions. -/
def Visit.reported (v : Visit) (written : Except Failure Unit) : Round :=
  { v with desired := some .managed, now := default, written }

/-- After a write that failed and one that did not, the failure of the sync is told once. -/
theorem reconcile_tells_outcome_builtin :
    let _ : Decode.Wording := .brief
    let available : Condition := ⟨"Available", .holds, "AsExpected", "", default⟩
    let initial : Storage := ⟨Metadata.named clusterName, none, some [available]⟩
    let failing := Visit.ungatedOn .azure
    let before := Situation.after 60 ⟨builtin, initial⟩
      [failing.reported (.error (.internal "write" "refused"))]
    let report := (failing.reported (.ok ())).reconcile 60 before
    before.storage.conditions = [available] ∧
      report.reply = .error (.notFound "FeatureGate" clusterName) ∧
      ∃ c, report.situation.storage.conditions.filter (·.type == Degraded.conditionType) = [c] ∧
        c.told = (.holds, "SyncError", (Failure.notFound "FeatureGate" clusterName).message) := by
  -- The first round fails to write, so the second one has to write the condition again.
  intro _ available initial failing before report
  have distinct : (initial.conditions.map (·.type)).Nodup := by decide
  obtain ⟨told, -, -, -, -, failed, -⟩ := reconcile_tells_outcome distinct builtin 60
    [failing.reported (.error (.internal "write" "refused"))] (failing.reported (.ok ()))
  have outcome : (failing.reported (.ok ())).outcome before =
      .error (.notFound "FeatureGate" clusterName) := rfl
  refine ⟨rfl, failed _ outcome, ?_⟩
  obtain ⟨c, single, tell⟩ := told (.inr rfl)
  rw [outcome] at tell
  exact ⟨c, single, tell⟩

end CsiOperator.Starter
