import CsiOperator.Resource.Condition
import Mathlib.Data.List.Nodup

/-! Setting a condition tells its new state once, and leaves the conditions of other types. -/

namespace CsiOperator.Condition

variable {new : Condition} {conditions changed : List Condition}

/-- What a condition tells apart from its type and its time. -/
def told (c : Condition) : ConditionStatus × String × String :=
  (c.status, c.reason, c.message)

/-- Two conditions of one type have the same state when they tell the same. -/
theorem sameState_iff {a b : Condition} (types : a.type = b.type) :
    a.sameState b = true ↔ a.told = b.told := by
  -- Neither of them looks at the time.
  simp [sameState, told, types, and_assoc]

/-- A condition that replaces another one keeps its own type. -/
@[simp] theorem replacing_type (new old : Condition) : (new.replacing old).type = new.type := by
  -- Whichever time is kept, the type is that of the new condition.
  unfold replacing
  split <;> rfl

/-- A condition that replaces another one tells what it tells itself. -/
@[simp] theorem replacing_told (new old : Condition) : (new.replacing old).told = new.told := by
  -- Only the time may come from the old condition.
  unfold replacing
  split <;> rfl

/-- Nothing changes exactly when the first condition of the type tells the same already. -/
theorem set_eq_none_iff (new : Condition) (conditions : List Condition) :
    new.set conditions = none ↔
      (conditions.find? (·.type == new.type)).map told = some new.told := by
  -- The walk stops at the first condition of the type, which is the one that look-up finds.
  induction conditions with
  | nil => simp [set]
  | cons old rest ih =>
    by_cases same : old.type = new.type
    · simp [set, same, sameState_iff same]
    · simpa [set, same] using ih

/-- A change puts a condition that tells the same in the place of the first one of its type, or at
the end when there is none. -/
theorem set_eq_some (set : new.set conditions = some changed) :
    ∃ before now later, changed = before ++ now :: later ∧
      (∀ c ∈ before, c.type ≠ new.type) ∧ now.type = new.type ∧ now.told = new.told ∧
      (conditions = before ∧ later = [] ∨
        ∃ old, old.type = new.type ∧ conditions = before ++ old :: later) := by
  -- By induction on the conditions, of which the first of the type is the one that is replaced.
  induction conditions generalizing changed with
  | nil =>
    simp only [Condition.set, Option.some.injEq] at set
    exact ⟨[], new, [], by simp [← set], by simp, rfl, rfl, .inl ⟨rfl, rfl⟩⟩
  | cons old rest ih =>
    by_cases same : old.type = new.type
    · -- The first condition of the type is replaced, and the walk ends there.
      simp only [Condition.set, same, BEq.rfl, if_true] at set
      split at set
      · cases set
      · simp only [Option.some.injEq] at set
        exact ⟨[], new.replacing old, rest, by simp [← set], by simp, by simp, by simp,
          .inr ⟨old, same, rfl⟩⟩
    · -- A condition of another type stays in front of what happens to the later ones.
      simp only [Condition.set, beq_eq_false_iff_ne.mpr same, Bool.false_eq_true, if_false,
        Option.map_eq_some_iff] at set
      obtain ⟨changedRest, set, rfl⟩ := set
      obtain ⟨before, now, later, rfl, others, type, told, origin⟩ := ih set
      refine ⟨old :: before, now, later, rfl, ?_, type, told, ?_⟩
      · simpa [same] using others
      · rcases origin with ⟨rfl, rfl⟩ | ⟨replaced, matching, rfl⟩
        · exact .inl ⟨rfl, rfl⟩
        · exact .inr ⟨replaced, matching, rfl⟩

/-- A change leaves the conditions of other types as they are, in their order. -/
theorem set_others (set : new.set conditions = some changed) :
    changed.filter (·.type ≠ new.type) = conditions.filter (·.type ≠ new.type) := by
  -- What is new and what is replaced have the type, so both fall out of the filter.
  obtain ⟨before, now, later, rfl, -, type, -, origin⟩ := set_eq_some set
  rcases origin with ⟨rfl, rfl⟩ | ⟨old, replaced, rfl⟩
  · simp [type]
  · simp [type, replaced]

/-- A change keeps types apart. -/
theorem set_distinct (set : new.set conditions = some changed)
    (distinct : (conditions.map (·.type)).Nodup) : (changed.map (·.type)).Nodup := by
  -- Either one condition is replaced by another of its type, or a new type comes behind the others.
  obtain ⟨before, now, later, rfl, others, type, -, origin⟩ := set_eq_some set
  rcases origin with ⟨rfl, rfl⟩ | ⟨old, replaced, rfl⟩
  · -- A new type goes to the end of types that are all different from it.
    rw [List.map_append, List.map_singleton, type]
    refine List.nodup_append.mpr ⟨distinct, by simp, ?_⟩
    intro other member last final
    obtain ⟨c, present, rfl⟩ := List.mem_map.mp member
    rw [List.mem_singleton.mp final]
    exact others c present
  · -- A condition in the place of another one of its type leaves the types as they are.
    simpa [type, replaced] using distinct

/-- After a change, the first condition of the type tells what was set. -/
theorem set_told (set : new.set conditions = some changed) :
    (changed.find? (·.type == new.type)).map told = some new.told := by
  -- No condition of the type stands before the new one.
  obtain ⟨before, now, later, rfl, others, type, told, -⟩ := set_eq_some set
  have none : before.find? (·.type == new.type) = none := by
    simpa using others
  simp [List.find?_append, none, type, told]

/-- With types apart, the first condition of a type is the only one. -/
theorem filter_type_of_find {type : String} {found : Condition}
    (distinct : (conditions.map (·.type)).Nodup)
    (first : conditions.find? (·.type == type) = some found) :
    conditions.filter (·.type == type) = [found] := by
  -- By induction on the conditions, past those of other types up to the first of this one.
  induction conditions with
  | nil => cases first
  | cons old rest ih =>
    obtain ⟨absent, apart⟩ := List.nodup_cons.mp distinct
    by_cases same : old.type = type
    · -- No later condition has the type again.
      simp only [List.find?_cons, same, BEq.rfl, Option.some.injEq] at first
      have alone : rest.filter (·.type == type) = [] := by
        rw [List.filter_eq_nil_iff]
        intro c member matching
        have again : c.type = old.type := (beq_iff_eq.mp matching).trans same.symm
        exact absent (List.mem_map.mpr ⟨c, member, again⟩)
      simp [same, alone, ← first]
    · have later := ih apart (by simpa [same] using first)
      simpa [same] using later

end CsiOperator.Condition
