import CsiOperator.Proofs.Starter.Overlap

/-! Every call gets hold of the operator, reads, gives it back, and then only announces. -/

namespace CsiOperator.Starter

/-- Only announcements are left, and the reply is settled. -/
inductive Closing (reply : Reply) : Routine Reply → Prop
  /-- Nothing is left. -/
  | done : Closing reply (.done reply)
  /-- Something is announced before the rest. -/
  | announce {about : Reference} {what : Announcement} {next : Unit → Routine Reply} :
    Closing reply (next ()) → Closing reply (.ask (.announce about what) next)

/-- The readers may be asked, until the operator is given back. -/
inductive Inside : Routine Reply → Prop
  /-- A reader is asked, whatever it answers. -/
  | read {question : Call} {next : question.Answer → Routine Reply} :
    question.reads = true → (∀ answer, Inside (next answer)) → Inside (.ask question next)
  /-- The operator is given back. -/
  | release {starter : Starter} {starts : List Start} {next : Unit → Routine Reply}
    {reply : Reply} : Closing reply (next ()) → Inside (.ask (.release starter starts) next)

/-- A routine gets hold of the operator before it does anything else. -/
def Orderly (routine : Routine Reply) : Prop :=
  ∃ next, routine = .ask .acquire next ∧ ∀ s, Inside (next s)

/-- What is left announces some starts, in their order. -/
inductive Announcing (reply : Reply) : List Start → Routine Reply → Prop
  /-- Nothing is left. -/
  | done : Announcing reply [] (.done reply)
  /-- The first start is announced before the others. -/
  | announce {start : Start} {later : List Start} {next : Unit → Routine Reply} :
    Announcing reply later (next ()) → Announcing reply (start :: later)
      (.ask (.announce Reference.storage (.driverStarted start.descriptor.driver)) next)

/-- The readers may be asked, until the operator is given back with starts that are announced then. -/
inductive Announces : Routine Reply → Prop
  /-- A reader is asked, whatever it answers. -/
  | read {question : Call} {next : question.Answer → Routine Reply} :
    question.reads = true → (∀ answer, Announces (next answer)) → Announces (.ask question next)
  /-- The operator is given back. -/
  | release {starter : Starter} {starts : List Start} {next : Unit → Routine Reply}
    {reply : Reply} : Announcing reply starts (next ()) →
    Announces (.ask (.release starter starts) next)

/-- Announcing settles nothing. -/
theorem Announcing.closing {reply : Reply} {starts : List Start} {rest : Routine Reply}
    (announcing : Announcing reply starts rest) : Closing reply rest := by
  -- By induction on the announcements, each of which settles as little as the next.
  induction announcing with
  | done => exact .done
  | announce _ ih => exact .announce ih

/-- What announces its starts stays inside until then. -/
theorem Announces.inside {rest : Routine Reply} (announces : Announces rest) : Inside rest := by
  -- By induction on the readings, up to the release.
  induction announces with
  | read reads _ ih => exact .read reads ih
  | release announcing => exact .release announcing.closing

/-- All starts are announced, in their order. -/
theorem announceAll_announcing (starts : List Start) (reply : Reply) :
    Announcing reply starts (announceAll starts >>= fun _ => pure reply) := by
  -- By induction on the starts, each of which is one announcement.
  induction starts with
  | nil => exact .done
  | cons start rest ih => exact .announce ih

/-- A sync announces what it starts, from the moment on when it has taken the management state. -/
theorem survey_announces (taken : Except Failure (Option ManagementState)) (s : Starter) :
    Announces (do
      match ← survey (.done taken) with
      | .error failure =>
        Dialogue.call (Call.release s [])
        return .error failure
      | .ok none =>
        Dialogue.call (Call.release s [])
        return .ok []
      | .ok (some (infrastructure, gate)) =>
        let (activated, starts) := s.activate infrastructure gate
        Dialogue.call (Call.release activated starts)
        announceAll starts
        return .ok (starts.map (·.descriptor.conditionPrefix))) := by
  -- A failure to read, like an operator that is not managed, gives the operator back unchanged.
  rcases taken with failure | _ | _ | _ | _ | _
  · exact .release .done
  · exact .release .done
  · refine .read rfl fun infrastructure => ?_
    rcases infrastructure with failure | infrastructure
    · exact .release .done
    · refine .read rfl fun gate => ?_
      rcases gate with failure | gate
      · exact .release .done
      · exact .release (announceAll_announcing _ _)
  all_goals exact .release .done

/-- Every demand is served by getting hold of the operator and announcing what is started. -/
theorem Demand.announces (demand : Demand) :
    ∃ next, demand.routine = .ask .acquire next ∧ ∀ s, Announces (next s) := by
  -- Only a full sync reads the management state itself; the others begin where it is known.
  cases demand with
  -- The management state is read first, unless it comes with the object at hand.
  | sync => exact ⟨_, rfl, fun s => .read rfl fun taken => survey_announces taken s⟩
  | syncObserved storage => exact ⟨_, rfl, survey_announces (.ok storage.managementState)⟩
  | running => exact ⟨_, rfl, fun s => .release .done⟩

/-- Every demand is served in order. -/
theorem Demand.orderly (demand : Demand) : Orderly demand.routine := by
  -- What announces its starts is inside from the moment on when the operator is taken.
  obtain ⟨next, routine, announces⟩ := demand.announces
  exact ⟨next, routine, fun s => (announces s).inside⟩

/-- Getting hold of the operator goes on with it. -/
theorem Readings.turn_acquire (r : Readings) (next : Starter → Routine Reply) (s : Starter) :
    r.turn (.ask .acquire next) s = r.turn (next s) s := rfl

/-- An answer of a reader goes on with it. -/
theorem Readings.turn_read (r : Readings) {question : Call}
    {next : question.Answer → Routine Reply} (reads : question.reads = true)
    {answer : question.Answer} (answered : r.answer? question = some answer) (s : Starter) :
    r.turn (.ask question next) s = r.turn (next answer) s := by
  -- Three kinds of questions go to readers, and each of them is answered as it is in a turn.
  cases question <;> simp only [Call.reads, Bool.false_eq_true] at reads
  all_goals
    simp only [Readings.answer?, Option.some.injEq] at answered
    subst answered
    rfl

/-- Announcements leave the memory alone. -/
theorem Closing.run {reply : Reply} {rest : Routine Reply} (closing : Closing reply rest)
    (r : Readings) : Dialogue.run r.answer rest = pure reply := by
  -- By induction on the announcements, none of which is answered by a change.
  induction closing with
  | done => rfl
  | announce _ ih => simpa [Readings.answer] using ih

/-- Giving the operator back settles what the call comes to. -/
theorem Readings.turn_release (r : Readings) {starter : Starter} {starts : List Start}
    {next : Unit → Routine Reply} {reply : Reply} (closing : Closing reply (next ()))
    (s : Starter) : r.turn (.ask (.release starter starts) next) s = ⟨reply, starts, starter⟩ := by
  -- The release puts starter and starts into the memory, and nothing after it changes them.
  simp only [Readings.turn, Dialogue.run_ask, Readings.answer, closing.run]
  rfl

/-- A call that only announces goes on to its end or to the next announcement. -/
theorem Closing.proceed {reply : Reply} {rest : Routine Reply} (closing : Closing reply rest)
    (i : Nat) (w : Crowd) : ∃ event : Event, event.silent = true ∧
      Event.readings [(i, event)] = [] ∧
        w.proceed i rest = (w.suspend i rest).note i event := by
  -- What is left is either the end or an announcement, and both are written down.
  cases closing with
  | done => exact ⟨_, rfl, rfl, rfl⟩
  | announce later => exact ⟨_, rfl, rfl, rfl⟩

/-- A call that has got hold of the operator goes on to the next reader, or gives it back. -/
theorem Inside.proceed {rest : Routine Reply} (inside : Inside rest) (i : Nat) (w : Crowd) :
    (∃ question : Call, question.reads = true ∧
      w.proceed i rest = (w.suspend i rest).note i (.asked question)) ∨
    ∃ starter starts next reply, rest = .ask (.release starter starts) next ∧
      Closing reply (next ()) ∧ w.proceed i rest =
        ({ w with starter, holder := none }.note i (.released starts)).proceed i (next ()) := by
  -- What is left inside either asks a reader or gives the operator back.
  cases inside with
  | @read question next reads later =>
    refine .inl ⟨question, reads, ?_⟩
    cases question <;> simp only [Call.reads, Bool.false_eq_true] at reads <;> rfl
  | release closing => exact .inr ⟨_, _, _, _, rfl, closing, rfl⟩

/-- What a call was suspended at does not matter once it goes on. -/
theorem Crowd.proceed_suspend (w : Crowd) (i : Nat) (before rest : Routine Reply) :
    (w.suspend i before).proceed i rest = w.proceed i rest := by
  -- The call stands at one place, so the later suspension replaces the earlier one.
  have settled : ∀ (w : Crowd) rest, (w.suspend i before).suspend i rest = w.suspend i rest := by
    intro w rest
    simp [Crowd.suspend]
  -- Giving the operator back is the only step that goes on without suspending the call anew.
  induction rest generalizing w with
  | done reply => rw [Crowd.proceed, Crowd.proceed, settled]
  | ask question next ih =>
    cases question with
    | release starter starts =>
      exact ih () ({ w with starter, holder := none }.note i (.released starts))
    | _ => simp only [Crowd.proceed, settled]

end CsiOperator.Starter
