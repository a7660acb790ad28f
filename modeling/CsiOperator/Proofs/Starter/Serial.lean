import CsiOperator.Proofs.Starter.Orderly

/-! Calls that overlap come to what they come to one after another, in the order of their turns. -/

namespace CsiOperator.Starter

open Event

/-- A call gets a reply when calls are made one after another. -/
def Replied (visits : Nat → Visit) (s : Starter) (order : List Nat) (i : Nat) (reply : Reply) :
    Prop :=
  -- The call and its turn stand at one place.
  ∃ (k : Nat) (turn : Turn), order[k]? = some i ∧
    (s.turns (order.map visits))[k]? = some turn ∧ turn.reply = reply

/-- Later calls do not change what earlier ones come to. -/
theorem Replied.append {visits : Nat → Visit} {s : Starter} {order : List Nat} {i : Nat}
    {reply : Reply} (replied : Replied visits s order i reply) (j : Nat) :
    Replied visits s (order ++ [j]) i reply := by
  -- Its place and its turn stay where they are.
  obtain ⟨k, turn, place, taken, got⟩ := replied
  have within : k < order.length := (List.getElem?_eq_some_iff.mp place).1
  refine ⟨k, turn, ?_, ?_, got⟩
  · rw [List.getElem?_append_left within, place]
  · rw [List.map_append, turns_append, List.getElem?_append_left (by simpa using within), taken]

/-- The last call gets what it comes to after all the others. -/
theorem Replied.last (visits : Nat → Visit) (s : Starter) (order : List Nat) (i : Nat) :
    Replied visits s (order ++ [i]) i ((visits i).turn (s.after (order.map visits))).reply :=
  -- It has the last place of the order, in front of which all the others stand.
  ⟨order.length, (visits i).turn (s.after (order.map visits)), by simp,
    by simp [turns_append, turns], rfl⟩

/-- How far a call has come. -/
inductive Phase (visits : Nat → Visit) (s : Starter) (w : Crowd) (i : Nat) : Prop
  /-- It has not got hold of the operator yet. -/
  | waiting : w.pending i = some (visits i).demand.routine → w.holder ≠ some i →
    i ∉ acquisitions w.log → Phase visits s w i
  /-- It has got hold of the operator, and the rest of it comes to what all of it comes to. -/
  | holding (rest : Routine Reply) : w.pending i = some rest → w.holder = some i → Inside rest →
    -- The answers so far have led to no more than what is left of the call.
    (visits i).toReadings.turn rest w.starter = (visits i).turn w.starter → Phase visits s w i
  /-- It has given the operator back, and its reply is the one that it gets in turn. -/
  | closing (rest : Routine Reply) (reply : Reply) : w.pending i = some rest →
    w.holder ≠ some i → Closing reply rest → Replied visits s (releases w.log) i reply →
    Phase visits s w i
  /-- It has been dropped. -/
  | dropped : w.pending i = none → w.holder ≠ some i → Phase visits s w i

/-- A phase lasts while what it speaks of stays as it is. -/
theorem Phase.lasts {visits : Nat → Visit} {s : Starter} {w w' : Crowd} {i : Nat}
    (phase : Phase visits s w i) (pending : w'.pending i = w.pending i)
    (holder : w'.holder = some i ↔ w.holder = some i)
    (acquired : i ∈ acquisitions w'.log → i ∈ acquisitions w.log)
    (starter : w.holder = some i → w'.starter = w.starter)
    (replied : ∀ reply, Replied visits s (releases w.log) i reply →
      Replied visits s (releases w'.log) i reply) : Phase visits s w' i := by
  -- Only the phase that holds the operator speaks of its memory, and only the last ones of replies.
  cases phase with
  | waiting left free never =>
    exact .waiting (pending.trans left) (mt holder.mp free) (mt acquired never)
  | holding rest left holds inside same =>
    refine .holding rest (pending.trans left) (holder.mpr holds) inside ?_
    rw [starter holds, same]
  | closing rest reply left free closing got =>
    exact .closing rest reply (pending.trans left) (mt holder.mp free) closing (replied reply got)
  | dropped left free => exact .dropped (pending.trans left) (mt holder.mp free)

/-- What a crowd of calls has come to is what some of them come to one after another. -/
structure Serial (visits : Nat → Visit) (s : Starter) (w : Crowd) : Prop where
  /-- Every call is in one of the phases. -/
  phases : ∀ i, Phase visits s w i
  /-- The operator is as the calls leave it that have given it back, one after another. -/
  starter : w.starter = s.after ((releases w.log).map visits)
  /-- The starts are those of these calls. -/
  starts : started w.log = s.starts ((releases w.log).map visits)
  /-- No call gets hold of the operator twice. -/
  distinct : (acquisitions w.log).Nodup
  /-- The operator is given back in the order in which the calls get hold of it. -/
  order : (acquisitions w.log).filter (· ∈ releases w.log) = releases w.log
  /-- The call that has got hold of the operator is the last one that did, and has it still. -/
  latest : ∀ i, w.holder = some i →
    i ∉ releases w.log ∧ ∃ before, acquisitions w.log = before ++ [i]

namespace Serial

variable {visits : Nat → Visit} {s : Starter} {w : Crowd} {i : Nat}

/-- Before any call has begun there is nothing to be in disorder. -/
theorem start (visits : Nat → Visit) (s : Starter) : Serial visits s (Crowd.start visits s) where
  phases i := .waiting rfl (by simp [Crowd.start]) (by simp [Crowd.start, acquisitions])
  starter := rfl
  starts := rfl
  distinct := List.nodup_nil
  order := rfl
  latest := by simp [Crowd.start]

/-- Questions, answers and ends of calls leave everything in order. -/
theorem note (kept : Serial visits s w) (i : Nat) {event : Event} (silent : event.silent = true) :
    Serial visits s (w.note i event) := by
  -- None of the views that the order is read off from has such an event.
  have views : acquisitions [(i, event)] = [] ∧ releases [(i, event)] = [] ∧
      started [(i, event)] = [] := by
    cases event <;> simp_all [Event.silent, acquisitions, releases, started]
  obtain ⟨acquired, released, begun⟩ := views
  constructor
  case phases =>
    intro j
    exact (kept.phases j).lasts rfl Iff.rfl (by simp [Crowd.note, acquired]) (fun _ => rfl)
      (by simp [Crowd.note, released])
  all_goals simp only [Crowd.note, acquisitions_append, releases_append, started_append, acquired,
    released, begun, List.append_nil]
  case starter => exact kept.starter
  case starts => exact kept.starts
  case distinct => exact kept.distinct
  case order => exact kept.order
  case latest => exact kept.latest

/-- A call that is in a phase may be suspended there with something else left to do. -/
theorem suspend (kept : Serial visits s w) {rest : Routine Reply}
    (phase : Phase visits s (w.suspend i rest) i) : Serial visits s (w.suspend i rest) := by
  -- Other calls do not notice.
  refine ⟨fun j => ?_, kept.starter, kept.starts, kept.distinct, kept.order, kept.latest⟩
  by_cases same : j = i
  · subst same
    exact phase
  · refine (kept.phases j).lasts ?_ Iff.rfl id (fun _ => rfl) (fun _ => id)
    simp [Crowd.suspend, same]

/-- A call gets hold of the operator when nobody else has. -/
theorem enter (kept : Serial visits s w) (free : w.holder = none)
    (never : i ∉ acquisitions w.log) {next : Starter → Routine Reply}
    (routine : (visits i).demand.routine = .ask .acquire next)
    (inside : Inside (next w.starter)) :
    Serial visits s
      (({ w with holder := some i }.note i .acquired).suspend i (next w.starter)) := by
  -- What has not been got hold of cannot have been given back.
  have unreleased : i ∉ releases w.log := by
    intro member
    rw [← kept.order] at member
    exact never (List.mem_filter.mp member).1
  constructor
  case phases =>
    intro j
    by_cases same : j = i
    · subst same
      -- The whole call comes to what follows its first question.
      refine .holding _ (by simp [Crowd.suspend]) rfl inside ?_
      rw [Visit.turn, routine, Readings.turn_acquire]
      rfl
    · refine (kept.phases j).lasts ?_ ?_ ?_ (fun _ => rfl) ?_
      · simp [Crowd.suspend, Crowd.note, same]
      · simp [Crowd.suspend, Crowd.note, free, Ne.symm same]
      · simp [Crowd.suspend, Crowd.note, acquisitions, same]
      · simp [Crowd.suspend, Crowd.note, releases]
  all_goals
    simp only [Crowd.suspend, Crowd.note, acquisitions_append, releases_append, started_append,
      show acquisitions [(i, .acquired)] = [i] from rfl,
      show releases [(i, .acquired)] = [] from rfl, show started [(i, .acquired)] = [] from rfl,
      List.append_nil]
  case starter => exact kept.starter
  case starts => exact kept.starts
  case distinct => simpa [List.nodup_append] using ⟨kept.distinct, fun j member => by
    rintro rfl
    exact never member⟩
  case order => simpa [List.filter_append, unreleased] using kept.order
  case latest =>
    intro j holds
    cases holds
    exact ⟨unreleased, _, rfl⟩

/-- A call that has got hold of the operator gives it back. -/
theorem release (kept : Serial visits s w) {starter : Starter} {starts : List Start}
    {next : Unit → Routine Reply} {reply : Reply}
    (pending : w.pending i = some (.ask (.release starter starts) next))
    (holds : w.holder = some i) (closing : Closing reply (next ())) :
    Serial visits s
      (({ w with starter, holder := none }.note i (.released starts)).suspend i (next ())) := by
  -- The call is the last one that got hold of the operator, and it has not given it back yet.
  obtain ⟨unreleased, before, acquired⟩ := kept.latest i holds
  -- The call comes to what it gives back, because nobody has changed the operator meanwhile.
  have turn : (visits i).turn w.starter = ⟨reply, starts, starter⟩ := by
    cases kept.phases i with
    | holding rest left _ _ same =>
      rw [pending, Option.some.injEq] at left
      rw [← same, ← left, Readings.turn_release _ closing]
    | waiting _ free | closing _ _ _ free | dropped _ free => exact absurd holds free
  constructor
  case phases =>
    intro j
    by_cases same : j = i
    · subst same
      refine .closing _ reply (by simp [Crowd.suspend]) (by simp [Crowd.suspend, Crowd.note])
        closing ?_
      -- Its turn is the next one in the order, on the operator as the others have left it.
      have last := Replied.last visits s (releases w.log) j
      rw [← kept.starter, turn] at last
      simpa [Crowd.suspend, Crowd.note, releases] using last
    · refine (kept.phases j).lasts ?_ ?_ ?_ ?_ ?_
      · simp [Crowd.suspend, Crowd.note, same]
      · simp [Crowd.suspend, Crowd.note, holds, Ne.symm same]
      · simp [Crowd.suspend, Crowd.note, acquisitions]
      · intro other
        rw [holds, Option.some.injEq] at other
        exact absurd other.symm same
      · intro got replied
        simpa [Crowd.suspend, Crowd.note, releases] using replied.append i
  all_goals
    simp only [Crowd.suspend, Crowd.note, acquisitions_append, releases_append, started_append,
      show acquisitions [(i, .released starts)] = [] from rfl,
      show releases [(i, .released starts)] = [i] from rfl,
      show started [(i, .released starts)] = starts ++ [] from rfl, List.append_nil,
      List.map_append, after_append, starts_append]
  case starter => rw [← kept.starter, List.map_singleton, after, after, turn]
  case starts =>
    rw [← kept.starter, ← kept.starts]
    simp [Starter.starts, turns, turn]
  case distinct => exact kept.distinct
  case order =>
    have distinct := kept.distinct
    have order := kept.order
    -- It is the last one that has got hold of the operator, so it goes to the end of both lists.
    rw [acquired] at distinct order ⊢
    have earlier : ∀ j ∈ before, j ≠ i := fun j member =>
      (List.nodup_append.mp distinct).2.2 j member i (by simp)
    rw [List.filter_append] at order ⊢
    simp only [unreleased, List.filter_cons, decide_false, List.filter_nil, List.append_nil,
      Bool.false_eq_true, if_false] at order
    have same : before.filter (· ∈ releases w.log ++ [i]) = before.filter (· ∈ releases w.log) :=
      List.filter_congr fun j member => by simp [earlier j member]
    rw [same, order]
    simp
  case latest => simp

/-- A dropped call leaves nothing behind that others could notice. -/
theorem drop (kept : Serial visits s w) (i : Nat) : Serial visits s (w.drop i) := by
  -- A call that has returned cannot be dropped, and then nothing changes.
  unfold Crowd.drop
  split
  · refine Serial.note ?_ i rfl
    refine ⟨fun j => ?_, kept.starter, kept.starts, kept.distinct, kept.order, fun j holds => ?_⟩
    · by_cases same : j = i
      · subst same
        -- Whatever it has got hold of becomes free.
        refine .dropped (by simp) ?_
        dsimp only
        split <;> simp_all
      · refine (kept.phases j).lasts (by simp [same]) ?_ id (fun _ => rfl) (fun _ => id)
        dsimp only
        split
        · rename_i holds
          simp [holds, Ne.symm same]
        · exact Iff.rfl
    · dsimp only at holds
      split at holds
      · cases holds
      · exact kept.latest j holds
  · exact kept

/-- A call that has returned has got what it gets in its turn. -/
theorem replied (kept : Serial visits s w) {reply : Reply}
    (returned : w.pending i = some (.done reply)) : Replied visits s (releases w.log) i reply := by
  -- Before it gives the operator back a call always has something left to ask.
  cases kept.phases i with
  | waiting left =>
    obtain ⟨first, routine, -⟩ := (visits i).demand.orderly
    rw [returned, routine] at left
    cases left
  | holding rest left _ inside =>
    rw [returned, Option.some.injEq] at left
    rw [← left] at inside
    cases inside
  | closing rest got left _ closing turn =>
    rw [returned, Option.some.injEq] at left
    rw [← left] at closing
    cases closing
    exact turn
  | dropped left => simp [returned] at left

/-- A call that has got hold of the operator without giving it back has it still, or was dropped. -/
theorem unserved (kept : Serial visits s w) (acquired : i ∈ acquisitions w.log)
    (unreleased : i ∉ releases w.log) : w.holder = some i ∨ w.pending i = none := by
  -- The phase of the call tells whether it has given the operator back.
  cases kept.phases i with
  | waiting _ _ never => exact absurd acquired never
  | holding _ _ holds => exact .inl holds
  | closing _ reply _ _ _ got =>
    -- A reply comes from a turn, which has a place among those that gave the operator back.
    obtain ⟨k, _, place, -⟩ := got
    exact absurd (List.mem_of_getElem? place) unreleased
  | dropped left => exact .inr left

end Serial

end CsiOperator.Starter
