import CsiOperator.Proofs.Starter.Overlap

/-! Which readers a sync asks, where it stops asking, and what it leaves behind then. -/

namespace CsiOperator

/-- What is announced of a start. -/
def Start.announcement (start : Start) : Starter.Call :=
  .announce Reference.storage (.driverStarted start.descriptor.driver)

namespace Starter

/-- What a sync gets the management state from: its own reader, or one that answers what a caller
brings. -/
def stateReader : Option (Except Failure (Option ManagementState)) →
    Routine (Except Failure (Option ManagementState))
  -- What a caller brings is at hand, so nothing is asked for it.
  | none => Dialogue.call Call.managementState
  | some state => .done state

/-- A sync that asks its own reader for the management state, unless a caller brings another one. -/
def syncFrom (brought : Option (Except Failure (Option ManagementState))) : Routine Reply :=
  syncWith (stateReader brought)

/-- The readers that a sync asks when nothing ends it before, in order. -/
def readers : List Call :=
  [.managementState, .infrastructure clusterName, .featureGate clusterName]

/-- What is asked up to the first answer that ends the asking, the question for that answer included. -/
def through (ends : Call → Bool) : List Call → List Call
  -- The question that ends the asking is still one that was put.
  | [] => []
  | question :: rest => question :: if ends question then [] else through ends rest

/-- The answer of a reader ends a sync. -/
def Readings.ends (r : Readings) (state : Except Failure (Option ManagementState)) : Call → Bool
  -- A management state ends a sync unless it says that the operator is managed.
  | .managementState => state != .ok (some .managed)
  | .infrastructure name => !(r.infrastructure name).isOk
  | .featureGate name => !(r.featureGate name).isOk
  | _ => false

/-- Having the operator is not a question to a reader. -/
@[simp] theorem Call.acquire_reads : Call.acquire.reads = false := rfl

/-- Giving the operator back is not a question to a reader. -/
@[simp] theorem Call.release_reads (s : Starter) (starts : List Start) :
    (Call.release s starts).reads = false := rfl

/-- Announcing is not a question to a reader. -/
@[simp] theorem Call.announcement_reads (start : Start) : start.announcement.reads = false := rfl

/-- A question about the infrastructure leaves everything as it is. -/
theorem Readings.answer_infrastructure (r : Readings) (name : String) (m : Memory) :
    (r.answer (.infrastructure name)).run m = (r.infrastructure name, m) := rfl

/-- A question about the feature gate leaves everything as it is. -/
theorem Readings.answer_featureGate (r : Readings) (name : String) (m : Memory) :
    (r.answer (.featureGate name)).run m = (r.featureGate name, m) := rfl

/-- What is asked is the beginning of what there is to ask. -/
theorem through_isPrefix (ends : Call → Bool) (questions : List Call) :
    through ends questions <+: questions := by
  -- Every question is asked or comes after one whose answer has ended the asking.
  induction questions with
  | nil => exact List.prefix_rfl
  | cons question rest ih =>
    rw [through]
    split
    · exact List.prefix_append [question] rest
    · exact (List.prefix_cons_inj question).mpr ih

/-- After the management state only the infrastructure and the feature gate are left to ask for. -/
theorem mem_through_tail {ends : Call → Bool} {call : Call}
    (among : call ∈ (through ends readers).tail) :
    call = .infrastructure clusterName ∨ call = .featureGate clusterName :=
  List.mem_pair.mp ((through_isPrefix ends readers).sublist.tail.subset among)

/-- Announcements are made in the order of the starts, and nothing else is asked meanwhile. -/
theorem announceAll_questions (r : Readings) (starts : List Start) (m : Memory) :
    (announceAll starts).questions r.answer m = starts.map Start.announcement := by
  -- Each announcement leaves the memory as it is, so that the others come in the same way.
  induction starts with
  | nil => rfl
  | cons start rest ih => exact congrArg (start.announcement :: ·) ih

section Reading

variable {r : Readings} {state : Routine (Except Failure (Option ManagementState))}
  {taken : Except Failure (Option ManagementState)}

/-- Once the management state is known, the other readers are asked until an answer ends it. -/
theorem survey_questions (reads : state.run r.answer = pure taken) (m : Memory) :
    (survey state).questions r.answer m =
      state.questions r.answer m ++ (through (r.ends taken) readers).tail := by
  -- The first question is about the management state, and its answer decides about the others.
  have answered : (state.run r.answer).run m = (taken, m) := by rw [reads]; rfl
  rw [survey, Dialogue.questions_bind, answered]
  apply congrArg (state.questions r.answer m ++ ·)
  -- Only a managed operator has anything else read, and the feature gate comes last.
  rcases taken with failure | _ | _ | _ | _ | _ <;> try rfl
  cases first : r.infrastructure clusterName with
  | error failure =>
    simp only [Dialogue.call_bind, Dialogue.questions_ask, r.answer_infrastructure, first, through,
      readers, Readings.ends]
    rfl
  | ok infrastructure =>
    cases second : r.featureGate clusterName <;>
      simp only [Dialogue.call_bind, Dialogue.questions_ask, r.answer_infrastructure, first,
        r.answer_featureGate, second, through, readers, Readings.ends] <;> rfl

/-- A sync has the operator while it reads, and announces its starts once it has given it back. -/
theorem syncWith_questions (reads : state.run r.answer = pure taken) (s : Starter) :
    let turn := r.turn (syncWith state) s
    (syncWith state).questions r.answer ⟨s, []⟩ =
      .acquire :: (state.questions r.answer ⟨s, []⟩ ++ (through (r.ends taken) readers).tail ++
        .release turn.starter turn.starts :: turn.starts.map Start.announcement) := by
  -- The survey leaves the starter alone, so what is read comes before what is started.
  have surveyed : ((survey state).run r.answer).run ⟨s, []⟩ = (r.learnt taken, ⟨s, []⟩) := by
    rw [survey_run r reads]; rfl
  -- The operator is asked for first, and is given back as soon as nothing is left to read.
  intro turn
  have given : turn = _ := syncWith_turn r reads s
  rw [given, syncWith, Dialogue.call_bind, Dialogue.questions_ask]
  apply congrArg (Call.acquire :: ·)
  show Dialogue.questions r.answer (survey state >>= _) ⟨s, []⟩ = _
  rw [Dialogue.questions_bind, surveyed, survey_questions reads]
  apply congrArg (state.questions r.answer ⟨s, []⟩ ++ (through (r.ends taken) readers).tail ++ ·)
  rcases r.learnt taken with failure | _ | ⟨infrastructure, gate⟩
  · -- Nothing is due, so that the operator is given back unchanged.
    rw [dueOn_nothing (by simp), startDue_never]
    rfl
  · rw [dueOn_nothing (by simp), startDue_never]
    rfl
  · show .release _ _ :: Dialogue.questions r.answer (announceAll _ >>= _) _ = _
    rw [Dialogue.questions_bind, announceAll_questions]
    exact congrArg (Call.release _ _ :: ·) (List.append_nil _)

/-- A sync that learns nothing about the cluster leaves the operator as it is. -/
theorem syncWith_turn_without (reads : state.run r.answer = pure taken) (s : Starter)
    (nothing : ∀ found, r.learnt taken ≠ .ok (some found)) :
    r.turn (syncWith state) s = ⟨(r.learnt taken).map fun _ => [], [], s⟩ := by
  -- Nothing is due without a sight of the cluster, and then no bundle starts.
  rw [syncWith_turn r reads s, dueOn_nothing nothing, startDue_never]
  rfl

end Reading

/-- A look at the cluster fails with the failure of the first reader that fails. -/
theorem Readings.learnt_eq_error_iff (r : Readings)
    (state : Except Failure (Option ManagementState)) (failure : Failure) :
    r.learnt state = .error failure ↔ state = .error failure ∨ state = .ok (some .managed) ∧
      (r.infrastructure clusterName = .error failure ∨
        (∃ infrastructure, r.infrastructure clusterName = .ok infrastructure) ∧
          r.featureGate clusterName = .error failure) := by
  -- Unless the operator is managed, no reader but that of the management state can fail.
  unfold learnt
  rcases state with failed | _ | _ | _ | _ | _ <;> simp
  cases r.infrastructure clusterName <;> cases r.featureGate clusterName <;> simp

/-- A managed operator is needed to learn anything about the cluster. -/
theorem Readings.managed_of_learnt {r : Readings} {state : Except Failure (Option ManagementState)}
    {found : Infrastructure × FeatureGate} (learnt : r.learnt state = .ok (some found)) :
    state = .ok (some .managed) := by
  -- Any other state is all that a sync takes, and is not followed by another reading.
  unfold Readings.learnt at learnt
  split at learnt
  · cases learnt
  · rfl
  · cases learnt

/-- A sync takes the management state that is brought, or else what its own reader answers. -/
theorem stateReader_run (r : Readings)
    (brought : Option (Except Failure (Option ManagementState))) :
    (stateReader brought).run r.answer = pure (brought.getD r.managementState) := by
  cases brought <;> rfl

/-- The readers that a sync asks are its own reader of the management state, unless another one is
brought, and then the others up to the first answer that ends it. -/
theorem syncFrom_asked (r : Readings) (brought : Option (Except Failure (Option ManagementState)))
    (s : Starter) :
    ((syncFrom brought).questions r.answer ⟨s, []⟩).filter (·.reads) =
      (stateReader brought).questions r.answer ⟨s, []⟩ ++
        (through (r.ends (brought.getD r.managementState)) readers).tail := by
  -- All questions up to the release are for readers, so the filter keeps them.
  have own : ((stateReader brought).questions r.answer ⟨s, []⟩).filter (·.reads) =
      (stateReader brought).questions r.answer ⟨s, []⟩ := by cases brought <;> rfl
  have others (ends : Call → Bool) :
      (through ends readers).tail.filter (·.reads) = (through ends readers).tail := by
    apply List.filter_eq_self.mpr
    intro call among
    rcases mem_through_tail among with rfl | rfl <;> rfl
  have announced (starts : List Start) : (starts.map Start.announcement).filter (·.reads) = [] := by
    simp [List.filter_eq_nil_iff]
  -- Having the operator, giving it back and announcing are left out.
  simp only [syncFrom, syncWith_questions (stateReader_run r brought) s, List.filter_cons,
    List.filter_append, own, others, announced, Call.acquire_reads, Call.release_reads]
  simp

/-- A sync that starts nothing announces nothing. -/
theorem syncFrom_silent (r : Readings) (brought : Option (Except Failure (Option ManagementState)))
    (s : Starter) (none : (r.turn (syncFrom brought) s).starts = []) (about : Reference)
    (what : Announcement) :
    .announce about what ∉ (syncFrom brought).questions r.answer ⟨s, []⟩ := by
  -- What is asked before the operator is given back is never an announcement.
  intro member
  rw [syncFrom, syncWith_questions (stateReader_run r brought) s, ← syncFrom, none, List.mem_cons,
    List.mem_append, List.mem_append] at member
  rcases member with first | (own | other) | last
  · cases first
  · cases brought with
    | none => cases List.mem_singleton.mp own
    | some _ => cases own
  · rcases mem_through_tail other with known | known <;> cases known
  · simp at last

/--
A sync returns the failure of the first reader that fails, and starts nothing unless the operator is
managed. Then it leaves everything as it is.

The readers are asked in their order, up to the first answer that ends the sync. Where a caller brings
the management state, the reader of the sync is not asked for it; a reader that a caller brings is
consulted once, and before the other ones.
-/
theorem syncFrom_ends (r : Readings) (brought : Option (Except Failure (Option ManagementState)))
    (s : Starter) :
    let state := brought.getD r.managementState
    let turn := r.turn (syncFrom brought) s
    let calls := (syncFrom brought).questions r.answer ⟨s, []⟩
    let asked := calls.filter (·.reads)
    (∀ failure, turn.reply = .error failure ↔ state = .error failure ∨
      state = .ok (some .managed) ∧ (r.infrastructure clusterName = .error failure ∨
        (∃ infrastructure, r.infrastructure clusterName = .ok infrastructure) ∧
          r.featureGate clusterName = .error failure)) ∧
    (∀ other, state = .ok other → other ≠ some .managed → turn.reply = .ok []) ∧
    -- The bundles, the ledger, the starts and the announcements are those from before.
    (state ≠ .ok (some .managed) ∨ (∃ failure, turn.reply = .error failure) →
      turn.starter = s ∧ turn.starts = [] ∧ ∀ about what, .announce about what ∉ calls) ∧
    asked.Nodup ∧ (brought = none → asked = through (r.ends state) readers) ∧
    (brought ≠ none → asked = (through (r.ends state) readers).tail ∧ .managementState ∉ calls) ∧
    ∀ reader taken, reader.run r.answer = pure taken → ∃ last,
      (syncWith reader).questions r.answer ⟨s, []⟩ = .acquire ::
        (reader.questions r.answer ⟨s, []⟩ ++ (through (r.ends taken) readers).tail ++ last) ∧
      ∀ call ∈ last, call.reads = false := by
  -- What the readers tell settles everything, and each part is read off it.
  intro state turn calls asked
  have reads : (stateReader brought).run r.answer = pure state := stateReader_run r brought
  have failed : ∀ failure, turn.reply = .error failure ↔ r.learnt state = .error failure := by
    intro failure
    simp only [turn, syncFrom, syncWith_turn r reads s]
    cases r.learnt state <;> simp [Except.map]
  have only : asked =
      (stateReader brought).questions r.answer ⟨s, []⟩ ++ (through (r.ends state) readers).tail :=
    syncFrom_asked r brought s
  -- What its own reader is asked is the first question of all, and is left out for one that is brought.
  have own : brought = none → asked = through (r.ends state) readers := by
    intro none
    rw [only, none]
    rfl
  have other : brought ≠ none → asked = (through (r.ends state) readers).tail := by
    intro given
    obtain ⟨known, rfl⟩ := Option.ne_none_iff_exists'.mp given
    exact only
  refine ⟨fun failure => (failed failure).trans (r.learnt_eq_error_iff state failure), ?_, ?_, ?_,
    own, fun given => ⟨other given, fun member => ?_⟩, ?_⟩
  · -- An unmanaged operator learns nothing, and that is not a failure.
    intro other taken unmanaged
    have learnt : r.learnt state = .ok none := by
      rw [taken]
      rcases other with _ | _ | _ | _ | _ <;> first | rfl | exact absurd rfl unmanaged
    have same : turn = _ := syncWith_turn_without reads s (by simp [learnt])
    rw [same, learnt]
    rfl
  · -- A failure is the other way not to learn anything.
    intro ended
    have nothing : ∀ found, r.learnt state ≠ .ok (some found) := by
      intro found learnt
      rcases ended with unmanaged | ⟨failure, reply⟩
      · exact unmanaged (Readings.managed_of_learnt learnt)
      · rw [(failed failure).mp reply] at learnt
        cases learnt
    have same : turn = _ := syncWith_turn_without reads s nothing
    have none : turn.starts = [] := congrArg Turn.starts same
    exact ⟨congrArg Turn.starter same, none, syncFrom_silent r brought s none⟩
  · -- The readers differ, and those that are asked are some of them.
    have distinct : readers.Nodup := by simp [readers]
    have some : List.Sublist (through (r.ends state) readers) readers :=
      (through_isPrefix _ _).sublist
    by_cases none : brought = none
    · exact own none ▸ some.nodup distinct
    · exact other none ▸ (some.nodup distinct).sublist (List.tail_sublist _)
  · -- What is brought stands for the first reader, which does not come again.
    have asks : Call.managementState ∈ asked := List.mem_filter.mpr ⟨member, rfl⟩
    rw [other given] at asks
    rcases mem_through_tail asks with known | known <;> cases known
  · intro reader taken answers
    refine ⟨_, syncWith_questions answers s, ?_⟩
    intro call member
    rcases List.mem_cons.mp member with rfl | announced
    · rfl
    · obtain ⟨start, -, rfl⟩ := List.mem_map.mp announced
      rfl

/-- A call gets to see the cluster. -/
def Visit.completes (v : Visit) : Bool :=
  v.snapshot matches .ok (some _)

/-- A call that does not get to see the cluster leaves everything as it is. -/
theorem Visit.turn_of_not_completes {v : Visit} (ends : v.completes = false) (s : Starter) :
    (v.turn s).starter = s ∧ (v.turn s).starts = [] := by
  -- A call that does not complete has not seen the cluster, or not a managed operator.
  have nothing : ∀ found, v.snapshot ≠ .ok (some found) := by
    intro found learnt
    simp [Visit.completes, learnt] at ends
  rw [v.turn_eq, Visit.isEligible, dueOn_nothing nothing, startDue_never]
  exact ⟨rfl, rfl⟩

/-- Calls that end early can be left out of a run: the others find the operator just the same. -/
theorem run_completing (s : Starter) (visits : List Visit) :
    s.after (visits.filter Visit.completes) = s.after visits ∧
      s.starts (visits.filter Visit.completes) = s.starts visits := by
  -- By induction on the calls, each of which either completes or leaves the operator alone.
  induction visits generalizing s with
  | nil => exact ⟨rfl, rfl⟩
  | cons v rest ih =>
    by_cases completes : v.completes = true
    · -- A call that completes is in both runs, and they go on from one operator.
      rw [List.filter_cons_of_pos completes]
      obtain ⟨after, starts⟩ := ih (v.turn s).starter
      constructor
      · exact after
      · rw [starts_cons, starts_cons, starts]
    · rw [List.filter_cons_of_neg completes]
      obtain ⟨same, none⟩ := Visit.turn_of_not_completes (by simpa using completes) s
      obtain ⟨after, starts⟩ := ih s
      constructor
      · rw [after, Starter.after, same]
      · rw [starts, starts_cons, same, none, List.nil_append]

end Starter

end CsiOperator
