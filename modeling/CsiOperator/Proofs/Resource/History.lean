import CsiOperator.Proofs.Resource.Condition
import Mathlib.Data.List.Induction

/-! Conditions that are set one after another, and what a list of them shows of their history. -/

namespace CsiOperator.Condition

/-- The conditions after a new one, whether it has changed anything or not. -/
def put (new : Condition) (conditions : List Condition) : List Condition :=
  (new.set conditions).getD conditions

/-- The conditions after new ones, one after another. -/
def putAll (initial news : List Condition) : List Condition :=
  news.foldl (fun conditions new => new.put conditions) initial

/-- A condition shows what conditions of its type that were given one after another have come to. -/
structure Records (history : List Condition) (c : Condition) : Prop where
  /-- It tells what the last one tells. -/
  told : history.getLast?.map Condition.told = some c.told
  /-- It bears the time of the first one of those at the end that have its status. -/
  time : ∃ before first later, history = before ++ first :: later ∧
    (∀ d ∈ first :: later, d.status = c.status) ∧ (∀ d ∈ before.getLast?, d.status ≠ c.status) ∧
    c.lastTransitionTime = first.lastTransitionTime

/-- Replacing a condition that has the same state changes nothing. -/
theorem replacing_of_sameState {new old : Condition} (same : old.sameState new = true) :
    new.replacing old = old := by
  -- Four fields are compared, which leaves only the time.
  simp only [sameState, Bool.and_eq_true, beq_iff_eq] at same
  obtain ⟨⟨⟨type, status⟩, reason⟩, message⟩ := same
  -- The status is the same, so that the time of the old one is kept as well.
  rw [replacing, if_pos (by simpa using status)]
  cases old
  simp_all

/-- The first condition of the type is replaced, and the others stay. -/
theorem put_cons (new old : Condition) (rest : List Condition) : new.put (old :: rest) =
    if old.type = new.type then new.replacing old :: rest else old :: new.put rest := by
  -- The first condition is either of the type, and then it is the one in question, or it is passed.
  by_cases type : old.type = new.type
  · rw [if_pos type, put, set, if_pos (by simpa using type)]
    split
    · -- Nothing is returned, which is what replacing would have left.
      next same => rw [replacing_of_sameState same]; rfl
    · rfl
  · rw [if_neg type, put, put, set, if_neg (by simpa using type)]
    cases new.set rest <;> rfl

/-- Nothing is returned exactly when the conditions stay what they are. -/
theorem set_eq_none_iff_put (new : Condition) (conditions : List Condition) :
    new.set conditions = none ↔ new.put conditions = conditions := by
  -- What is returned differs from what there was, or else it would not be returned.
  cases set : new.set conditions with
  | none => simp [put, set]
  | some changed =>
    -- The first condition of the type tells something new after a change.
    rw [put, set, Option.getD_some]
    refine iff_of_false (by simp) fun same => ?_
    have told := set_told set
    rw [same, ← set_eq_none_iff, set] at told
    cases told

/-- With types apart, a condition is the first one of its type. -/
theorem find?_of_mem {conditions : List Condition} (distinct : (conditions.map (·.type)).Nodup)
    {c : Condition} (member : c ∈ conditions) : conditions.find? (·.type == c.type) = some c := by
  -- There is a first condition of its type, since it is one.
  obtain ⟨found, first⟩ : ∃ found, conditions.find? (·.type == c.type) = some found := by
    rw [← Option.isSome_iff_exists, List.find?_isSome]
    exact ⟨c, member, BEq.rfl⟩
  -- No other condition has the type, so the first one of it is the one that was asked for.
  have alone := filter_type_of_find distinct first
  have inside : c ∈ conditions.filter (·.type == c.type) := List.mem_filter.mpr ⟨member, BEq.rfl⟩
  rw [alone, List.mem_singleton] at inside
  rw [first, inside]

/-- With types apart, nothing is returned exactly when some condition has the same state. -/
theorem set_eq_none_iff_sameState {conditions : List Condition}
    (distinct : (conditions.map (·.type)).Nodup) (new : Condition) :
    new.set conditions = none ↔ ∃ old ∈ conditions, old.sameState new = true := by
  -- The first condition of the type is asked for, and with types apart there is no other.
  rw [set_eq_none_iff, Option.map_eq_some_iff]
  constructor
  · intro known
    obtain ⟨old, first, told⟩ := known
    have type : old.type = new.type := by simpa using List.find?_some first
    exact ⟨old, List.mem_of_find?_eq_some first, (sameState_iff type).mpr told⟩
  · intro known
    obtain ⟨old, member, same⟩ := known
    have type : old.type = new.type := by
      simp only [sameState, Bool.and_eq_true, beq_iff_eq] at same
      exact same.1.1.1
    exact ⟨old, type ▸ find?_of_mem distinct member, (sameState_iff type).mp same⟩

/-- A new type goes to the end of the types. -/
theorem put_types (new : Condition) (conditions : List Condition) :
    (new.put conditions).map (·.type) = if new.type ∈ conditions.map (·.type)
      then conditions.map (·.type) else conditions.map (·.type) ++ [new.type] := by
  -- A condition that is replaced gives its type to the one in its place.
  induction conditions with
  | nil => rfl
  | cons old rest ih =>
    rw [put_cons]
    by_cases type : old.type = new.type
    · simp [type]
    · rw [if_neg type, List.map_cons, ih]
      split
      · next inside => simp_all
      · next outside => simp_all [Ne.symm type]

/-- Types stay apart. -/
theorem put_distinct {conditions : List Condition} (distinct : (conditions.map (·.type)).Nodup)
    (new : Condition) : ((new.put conditions).map (·.type)).Nodup := by
  -- A condition that changes anything has been set, and that keeps types apart.
  cases set : new.set conditions with
  | none => rwa [put, set]
  | some changed => rw [put, set]; exact set_distinct set distinct

/-- With types apart, a condition is left from before, replaces another one, or is the new one. -/
theorem mem_put {conditions : List Condition} (distinct : (conditions.map (·.type)).Nodup)
    {new c : Condition} (member : c ∈ new.put conditions) :
    c ∈ conditions ∧ c.type ≠ new.type ∨
      (∃ old ∈ conditions, old.type = new.type ∧ c = new.replacing old) ∨
      c = new ∧ new.type ∉ conditions.map (·.type) := by
  -- The new condition takes the place of the first one of its type, and there is no second one.
  induction conditions with
  | nil => exact .inr (.inr ⟨List.mem_singleton.mp member, List.not_mem_nil⟩)
  | cons old rest ih =>
    obtain ⟨absent, apart⟩ := List.nodup_cons.mp distinct
    rw [put_cons] at member
    split at member
    · next type =>
      rcases List.mem_cons.mp member with same | later
      · exact .inr (.inl ⟨old, List.mem_cons_self, type, same⟩)
      · -- No later condition has the type again.
        have other : c.type ≠ new.type := by
          intro again
          exact absent (List.mem_map.mpr ⟨c, later, again.trans type.symm⟩)
        exact .inl ⟨List.mem_cons_of_mem _ later, other⟩
    · next type =>
      rcases List.mem_cons.mp member with same | later
      · exact .inl ⟨same ▸ List.mem_cons_self, same ▸ type⟩
      · rcases ih apart later with ⟨kept, other⟩ | ⟨replaced, inside, same⟩ | ⟨same, fresh⟩
        · exact .inl ⟨List.mem_cons_of_mem _ kept, other⟩
        · exact .inr (.inl ⟨replaced, List.mem_cons_of_mem _ inside, same⟩)
        · exact .inr (.inr ⟨same, by simpa [Ne.symm type] using fresh⟩)

/-- A condition that is the only one given shows itself. -/
theorem Records.single (c : Condition) : Records [c] c :=
  ⟨rfl, [], c, [], rfl, by simp, by simp, rfl⟩

/-- A condition that replaces another one shows one more of their type. -/
theorem Records.replacing {history : List Condition} {old : Condition}
    (records : Records history old) (new : Condition) : Records (history ++ [new]) (new.replacing old) := by
  -- The series at the end of the history either goes on or starts anew with the new condition.
  refine ⟨by simp, ?_⟩
  by_cases same : old.status = new.status
  · -- The series at the end goes on.
    obtain ⟨before, first, later, whole, series, parted, time⟩ := records.time
    have kept : new.replacing old = { new with lastTransitionTime := old.lastTransitionTime } :=
      if_pos (by simpa using same)
    refine ⟨before, first, later ++ [new], by simp [whole], ?_, ?_, ?_⟩
    · rw [kept, ← List.cons_append]
      intro d member
      rcases List.mem_append.mp member with inside | last
      · exact (series d inside).trans same
      · rw [List.mem_singleton.mp last]
    · simpa [kept, ← same] using parted
    · rw [kept]
      exact time
  · -- A new series begins with its own time, as the last status was another one.
    have own : new.replacing old = new := if_neg (by simpa using same)
    refine ⟨history, new, [], rfl, by simp [own], ?_, by rw [own]⟩
    intro d last
    have told := records.told
    rw [Option.mem_def.mp last, Option.map_some, Option.some.injEq] at told
    rw [own, show d.status = old.status from congrArg Prod.fst told]
    exact same

/-- The last of several new conditions is put into what the others leave. -/
theorem putAll_concat (initial news : List Condition) (new : Condition) :
    putAll initial (news ++ [new]) = new.put (putAll initial news) :=
  List.foldl_append ..

/-- An element at the end of a list is a first occurrence when it has not been there before. -/
theorem eraseDups_concat {α : Type} [BEq α] [LawfulBEq α] (xs : List α) (x : α)
    [Decidable (x ∈ xs)] :
    (xs ++ [x]).eraseDups = if x ∈ xs then xs.eraseDups else xs.eraseDups ++ [x] := by
  -- What comes later is put behind with whatever has occurred taken out of it.
  rw [List.eraseDups_append]
  split
  · next inside => simp [List.removeAll, inside]
  · next outside =>
    simp [List.removeAll, outside]
    rfl

/-- After new conditions the types are the old ones, and then others in the order of first use. -/
theorem putAll_types (initial news : List Condition) : (putAll initial news).map (·.type) =
    initial.map (·.type) ++
      ((news.map (·.type)).filter (· ∉ initial.map (·.type))).eraseDups := by
  -- From the right end: one more condition adds its type, unless that has been there.
  induction news using List.reverseRecOn with
  | nil => simp [putAll]
  | append_singleton news new ih =>
    rw [putAll_concat, put_types, ih, List.map_append, List.filter_append, List.map_singleton]
    generalize initial.map (·.type) = types
    by_cases known : new.type ∈ types
    · simp [known]
    · -- A type that is not of old is new when no earlier condition has had it.
      have last : [new.type].filter (· ∉ types) = [new.type] := by simp [known]
      have fresh : new.type ∈ types ++ ((news.map (·.type)).filter (· ∉ types)).eraseDups ↔
          new.type ∈ (news.map (·.type)).filter (· ∉ types) := by
        simp [known]
      rw [last, eraseDups_concat]
      simp only [fresh]
      split
      · rfl
      · rw [List.append_assoc]

/-- A type that no condition has after new ones has never been given. -/
theorem filter_eq_nil_of_fresh {initial news : List Condition} {type : String}
    (fresh : type ∉ (putAll initial news).map (·.type)) :
    (initial ++ news).filter (·.type == type) = [] := by
  -- A type that is given stays, so one that is absent at the end was never given.
  have unused : type ∉ (initial ++ news).map (·.type) := by
    intro used
    apply fresh
    -- A type that has been used is one of the old types or one of those that were added.
    rw [putAll_types, List.mem_append, List.mem_eraseDups, List.mem_filter]
    rw [List.map_append, List.mem_append] at used
    by_cases known : type ∈ initial.map (·.type)
    · exact .inl known
    · exact .inr ⟨used.resolve_left known, by simpa using known⟩
  rw [List.filter_eq_nil_iff]
  intro c member matching
  exact unused (List.mem_map.mpr ⟨c, member, by simpa using matching⟩)

/-- Every condition after new ones shows what the conditions of its type have come to. -/
theorem putAll_records {initial : List Condition} (distinct : (initial.map (·.type)).Nodup)
    (news : List Condition) : ((putAll initial news).map (·.type)).Nodup ∧
      ∀ c ∈ putAll initial news, Records ((initial ++ news).filter (·.type == c.type)) c := by
  -- The last of the new conditions is one more for its type and nothing for the others.
  induction news using List.reverseRecOn with
  -- At the beginning each type has one condition, which shows itself.
  | nil =>
    refine ⟨distinct, fun c member => ?_⟩
    rw [List.append_nil, filter_type_of_find distinct (find?_of_mem distinct member)]
    exact .single c
  | append_singleton news new ih =>
    obtain ⟨apart, records⟩ := ih
    rw [putAll_concat]
    refine ⟨put_distinct apart new, fun c member => ?_⟩
    rw [← List.append_assoc, List.filter_append]
    rcases mem_put apart member with ⟨kept, other⟩ | ⟨old, inside, type, same⟩ | ⟨same, fresh⟩
    -- A condition of another type is no part of this history.
    · simpa [Ne.symm other] using records c kept
    · subst same
      have last := (records old inside).replacing new
      simpa [type] using last
    · subst same
      simpa [filter_eq_nil_of_fresh fresh] using Records.single c

/--
A list of conditions with types apart keeps what it is told about each of them.

New types go to the end. The entry of a type tells what the last condition of the type has told,
and bears the time at which the status that it has now was told first. A condition that some entry
has the state of changes nothing, and every other one is seen in the list.
-/
theorem putAll_history {initial : List Condition} (distinct : (initial.map (·.type)).Nodup)
    (news : List Condition) :
    let after := putAll initial news
    (after.map (·.type)).Nodup ∧
    after.map (·.type) = initial.map (·.type) ++
      ((news.map (·.type)).filter (· ∉ initial.map (·.type))).eraseDups ∧
    (∀ c ∈ after, Records ((initial ++ news).filter (·.type == c.type)) c) ∧
    ∀ new : Condition, (new.set after = none ↔ new.put after = after) ∧
      (new.set after = none ↔ ∃ old ∈ after, old.sameState new = true) := by
  -- The records are kept along the conditions, and the law on changes needs only distinct types.
  intro after
  obtain ⟨apart, records⟩ := putAll_records distinct news
  exact ⟨apart, putAll_types initial news, records,
    fun new => ⟨set_eq_none_iff_put new after, set_eq_none_iff_sameState apart new⟩⟩

/-- A status that changes brings its own time, which a new message with it does not change. -/
theorem putAll_history_flipped :
    let initial : List Condition := [⟨"A", .fails, "", "", ⟨1, 0⟩⟩, ⟨"B", .holds, "", "", ⟨2, 0⟩⟩]
    let news : List Condition := [⟨"B", .fails, "Lost", "", ⟨3, 0⟩⟩,
      ⟨"C", .unknown, "", "", ⟨4, 0⟩⟩, ⟨"B", .fails, "Lost", "again", ⟨5, 0⟩⟩]
    let after := putAll initial news
    (initial.map (·.type)).Nodup ∧ after.map (·.type) = ["A", "B", "C"] ∧
      (⟨"B", .fails, "Lost", "again", ⟨3, 0⟩⟩ : Condition) ∈ after ∧
      ∀ old ∈ after, Records ((initial ++ news).filter (·.type == old.type)) old ∧
        old.set after = none := by
  -- The list afterwards is evaluated, and the law tells what each entry of it records.
  intro initial news after
  have distinct : (initial.map (·.type)).Nodup := by decide
  obtain ⟨-, types, records, returned⟩ := putAll_history distinct news
  refine ⟨distinct, types.trans (by decide +kernel), by decide +kernel, fun old member => ?_⟩
  exact ⟨records old member, (returned old).2.mpr ⟨old, member, by simp [sameState]⟩⟩

end CsiOperator.Condition
