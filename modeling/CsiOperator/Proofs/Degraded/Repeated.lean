import CsiOperator.Proofs.Degraded.Settled
import CsiOperator.Proofs.Resource.History

/-! Of several conditions of one type a new one replaces the first, and the others stay. -/

namespace CsiOperator

/-- A new condition leaves those of other types as they are, in their order. -/
theorem Condition.put_others (new : Condition) (conditions : List Condition) :
    (new.put conditions).filter (·.type ≠ new.type) = conditions.filter (·.type ≠ new.type) := by
  -- Setting leaves the others alone, and so does leaving everything as it is.
  cases set : new.set conditions with
  | none => rw [put, set, Option.getD_none]
  | some changed => rw [put, set, Option.getD_some, set_others set]

/-- A new condition is told in the place of the first one of its type. -/
theorem Condition.put_repeated (new : Condition) (conditions : List Condition) :
    ∃ now : Condition, now.told = new.told ∧ (new.put conditions).filter (·.type == new.type) =
      now :: (conditions.filter (·.type == new.type)).tail := by
  -- The walk ends at the first condition of the type, before it has seen the later ones.
  induction conditions with
  | nil => exact ⟨new, rfl, by simp [put, set]⟩
  | cons old rest ih =>
    rw [put_cons]
    by_cases type : old.type = new.type
    · exact ⟨new.replacing old, by simp, by simp [type]⟩
    · simpa [type] using ih

namespace Degraded

open Starter.Round (condition_type)
open Time (Timestamp)

/-- After a new condition all of its type tell the same exactly when the later ones have done so. -/
theorem put_agrees_iff (new : Condition) (conditions : List Condition) :
    (∀ c ∈ new.put conditions, c.type = new.type → c.told = new.told) ↔
      ∀ c ∈ (conditions.filter (·.type == new.type)).tail, c.told = new.told := by
  -- Where the conditions of the type stand after putting is known.
  obtain ⟨now, told, place⟩ := new.put_repeated conditions
  have whole : (∀ c ∈ new.put conditions, c.type = new.type → c.told = new.told) ↔
      ∀ c ∈ (new.put conditions).filter (·.type == new.type), c.told = new.told := by
    simp
  -- The first one has just been told, which leaves the later ones.
  rw [whole, place, List.forall_mem_cons]
  exact and_iff_right told

section

variable [Decode.Wording]

/-- The conditions of a storage after a report, of which everything that it writes is accepted. -/
def left (storage : Storage) (failure : Option Failure) (now : Timestamp) : List Condition :=
  ((writes storage failure now (.ok ())).getLast?.map Prod.snd).getD storage.conditions

/-- A report leaves the conditions into which its own has been put. -/
theorem left_eq (storage : Storage) (failure : Option Failure) (now : Timestamp) :
    left storage failure now = (condition failure now).put storage.conditions := by
  -- If nothing is written, the conditions stay those of the storage.
  rw [left, writes_eq, Condition.put]
  cases (condition failure now).set storage.conditions <;> rfl

/--
A new condition is told once, in the place of the first one of its type.

Every later condition of the type stays as it is, also one that contradicts the new one. Nothing is
returned when the first one tells the same, whatever the later ones tell. So a report leaves no
contradiction exactly when none stands behind the first condition of its type.
-/
theorem repeated_left (new : Condition) (conditions : List Condition) :
    let after := new.put conditions
    let later := (conditions.filter (·.type == new.type)).tail
    after.filter (·.type ≠ new.type) = conditions.filter (·.type ≠ new.type) ∧
    (∃ now : Condition, now.told = new.told ∧ after.filter (·.type == new.type) = now :: later) ∧
    ((∀ c ∈ after, c.type = new.type → c.told = new.told) ↔ ∀ c ∈ later, c.told = new.told) ∧
    (new.set conditions = none ↔
      (conditions.find? (·.type == new.type)).map Condition.told = some new.told) ∧
    ∀ storage failure now, (∀ c ∈ left storage failure now,
        c.type = conditionType → c.told = (condition failure now).told) ↔
      ∀ c ∈ (storage.conditions.filter (·.type == conditionType)).tail,
        c.told = (condition failure now).told := by
  -- Everything about the list itself holds of any new condition, and a report only adds which one
  -- that is.
  intro after later
  refine ⟨new.put_others conditions, new.put_repeated conditions, put_agrees_iff new conditions,
    Condition.set_eq_none_iff new conditions, ?_⟩
  intro storage failure now
  -- The report puts in its own condition, and it is the one of its type.
  have agrees := put_agrees_iff (condition failure now) storage.conditions
  rwa [← left_eq, condition_type] at agrees

end

/-- A sync that succeeds leaves a second condition that holds behind one that does not. -/
theorem contradiction_left :
    let _ : Decode.Wording := .brief
    let conditions := [condition none ⟨1, 0⟩, condition (some (.serialization "cut off")) ⟨2, 0⟩]
    let new := condition none ⟨3, 0⟩
    new.set conditions = none ∧
      ∃ c ∈ new.put conditions, c.type = new.type ∧ c.status ≠ new.status := by
  decide +kernel

end Degraded

end CsiOperator
