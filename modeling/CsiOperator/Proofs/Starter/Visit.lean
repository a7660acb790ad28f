import CsiOperator.Proofs.Dialogue
import CsiOperator.Proofs.Starter.Activation
import CsiOperator.Starter.Sync

/-! One call of the operator from outside, in terms of what the readers answer during it. -/

namespace CsiOperator.Starter

/-- What callers get back. -/
abbrev Reply := Except Failure (List String)

/-- What callers ask for. -/
inductive Demand where
  /-- A sync that asks a reader for the management state, its own or one that a caller brings. -/
  | sync
  /-- A sync for an object at hand. -/
  | syncObserved (storage : Storage)
  /-- The names of the running bundles. -/
  | running

/-- The computation that serves a demand. -/
def Demand.routine : Demand → Routine Reply
  -- Asking for the running bundles cannot fail.
  | .sync => Starter.sync
  | .syncObserved storage => Starter.syncObserved storage
  | .running => do return .ok (← runningNow)

/-- What the readers answer: any value or failure. -/
structure Readings where
  /-- The management state. -/
  managementState : Except Failure (Option ManagementState)
  /-- The infrastructures by name. -/
  infrastructure : String → Except Failure Infrastructure
  /-- The feature gates by name. -/
  featureGate : String → Except Failure FeatureGate

/-- One call from outside, with the answers of the readers during it. -/
structure Visit extends Readings where
  /-- What is asked for. -/
  demand : Demand

/-- The operator, and the bundles started so far. -/
structure Memory where
  /-- The operator. -/
  starter : Starter
  /-- The starts in order. -/
  starts : List Start

/-- Answers the calls of a computation that nobody interrupts. -/
def Readings.answer (r : Readings) : (q : Call) → StateM Memory q.Answer
  -- Nobody else has the operator, so it can be had at once.
  | .acquire => return (← get).starter
  | .managementState => return r.managementState
  | .infrastructure name => return r.infrastructure name
  | .featureGate name => return r.featureGate name
  | .release starter starts => modify fun m => ⟨starter, m.starts ++ starts⟩
  | .announce _ _ => return ()

/-- What a sync learns about the cluster once it has taken the management state: nothing unless the
operator is managed. -/
def Readings.learnt (r : Readings) (state : Except Failure (Option ManagementState)) :
    Except Failure (Option (Infrastructure × FeatureGate)) :=
  -- Of two readers that would fail only the first is asked.
  match state with
  | .error failure => .error failure
  | .ok (some .managed) =>
    match r.infrastructure clusterName, r.featureGate clusterName with
    | .error failure, _ => .error failure
    | .ok _, .error failure => .error failure
    | .ok infrastructure, .ok gate => .ok (some (infrastructure, gate))
  | .ok _ => .ok none

/-- Whether a driver is due on what a sync has learnt. -/
def dueOn (learnt : Except Failure (Option (Infrastructure × FeatureGate)))
    (catalog : FeatureCatalog) (d : Descriptor) : Bool :=
  -- Without both snapshots no driver is due.
  match learnt with
  | .ok (some (infrastructure, gate)) => d.shouldRun infrastructure gate catalog
  | _ => false

/-- What one call has come to. -/
structure Turn where
  /-- What the caller gets back. -/
  reply : Reply
  /-- The starts in order. -/
  starts : List Start
  /-- The operator afterwards. -/
  starter : Starter

/-- A computation that nobody interrupts. -/
def Readings.turn (r : Readings) (routine : Routine Reply) (s : Starter) : Turn :=
  -- Nobody else takes part, so the operator is at hand when it is asked for.
  let (reply, m) := (routine.run r.answer).run ⟨s, []⟩
  ⟨reply, m.starts, m.starter⟩

namespace Visit

/-- The whole call when nobody interrupts it. -/
def turn (v : Visit) (s : Starter) : Turn :=
  v.toReadings.turn v.demand.routine s

/-- The management state as the call takes it. A call that only asks for the running bundles takes
none. -/
def state (v : Visit) : Except Failure (Option ManagementState) :=
  -- A caller's object counts before what a reader would say.
  match v.demand with
  | .sync => v.managementState
  | .syncObserved storage => .ok storage.managementState
  | .running => .ok none

/-- What the call learns about the cluster. -/
def snapshot (v : Visit) : Except Failure (Option (Infrastructure × FeatureGate)) :=
  v.learnt v.state

/-- The operator is managed, both snapshots can be read, and the driver should run on them. -/
def Eligible (v : Visit) (catalog : FeatureCatalog) (d : Descriptor) : Prop :=
  -- The readers are asked by the name of the cluster's own objects.
  v.state = .ok (some .managed) ∧ ∃ infrastructure gate,
    v.infrastructure clusterName = .ok infrastructure ∧ v.featureGate clusterName = .ok gate ∧
      d.shouldRun infrastructure gate catalog = true

/-- Whether a driver is eligible. -/
def isEligible (v : Visit) (catalog : FeatureCatalog) : Descriptor → Bool :=
  dueOn v.snapshot catalog

/-- A call learns about the cluster when the operator is managed and both readers answer. -/
theorem snapshot_eq_some_iff (v : Visit) (infrastructure : Infrastructure) (gate : FeatureGate) :
    v.snapshot = .ok (some (infrastructure, gate)) ↔ v.state = .ok (some .managed) ∧
      v.infrastructure clusterName = .ok infrastructure ∧ v.featureGate clusterName = .ok gate := by
  -- Any other answer of a reader makes both sides false.
  unfold snapshot Readings.learnt
  rcases v.state with failure | _ | _ | _ | _ | _ <;> simp
  cases v.infrastructure clusterName <;> cases v.featureGate clusterName <;> simp

/-- The computed eligibility is the stated one. -/
theorem isEligible_iff (v : Visit) (catalog : FeatureCatalog) (d : Descriptor) :
    v.isEligible catalog d = true ↔ v.Eligible catalog d := by
  -- What is computed asks for both snapshots, which are there exactly when nothing ended the call.
  constructor
  · intro eligible
    unfold isEligible dueOn at eligible
    split at eligible
    · rename_i infrastructure gate learnt
      obtain ⟨managed, readFirst, readSecond⟩ := (v.snapshot_eq_some_iff _ _).mp learnt
      exact ⟨managed, infrastructure, gate, readFirst, readSecond, eligible⟩
    · cases eligible
  · rintro ⟨managed, infrastructure, gate, readFirst, readSecond, runs⟩
    have learnt := (v.snapshot_eq_some_iff infrastructure gate).mpr
      ⟨managed, readFirst, readSecond⟩
    simpa [isEligible, dueOn, learnt] using runs

end Visit

/-- Announcing changes nothing that is remembered. -/
theorem announceAll_run (r : Readings) (starts : List Start) :
    (announceAll starts).run r.answer = pure () := by
  -- By induction on the starts, each of which is one announcement.
  induction starts with
  | nil => rfl
  | cons start rest ih => simpa [announceAll, Readings.answer] using ih

/-- Activation changes nothing when no bundle is due. -/
theorem startDue_idle {isDue : Descriptor → Bool} {bundles : List Bundle}
    (idle : ∀ b ∈ bundles, isDue b.descriptor = false) (ledger : Ledger) :
    startDue isDue ledger bundles = (bundles, ledger, []) := by
  -- By induction on the bundles, none of which starts.
  induction bundles with
  | nil => rfl
  | cons bundle rest ih =>
    obtain ⟨first, others⟩ := List.forall_mem_cons.mp idle
    rw [startDue_cons_stays (by simp [Starts, first])]
    simp [ih others]

/-- Activation with nothing due changes nothing. -/
theorem startDue_never (ledger : Ledger) (bundles : List Bundle) :
    startDue (fun _ => false) ledger bundles = (bundles, ledger, []) :=
  startDue_idle (fun _ _ => rfl) ledger

/-- No driver is due on anything but both snapshots. -/
theorem dueOn_nothing {learnt : Except Failure (Option (Infrastructure × FeatureGate))}
    (nothing : ∀ found, learnt ≠ .ok (some found)) (catalog : FeatureCatalog) :
    dueOn learnt catalog = fun _ => false := by
  -- Only the case with both snapshots asks anything of a driver, and it is excluded.
  funext d
  unfold dueOn
  split
  · exact absurd rfl (nothing _)
  · rfl

/-- Reading the cluster brings back what the readers let a sync learn. -/
theorem survey_run (r : Readings) {state : Routine (Except Failure (Option ManagementState))}
    {taken : Except Failure (Option ManagementState)} (reads : state.run r.answer = pure taken) :
    (survey state).run r.answer = pure (r.learnt taken) := by
  -- The management state comes first, and only one of its values has the others read.
  rw [survey, Dialogue.run_bind, reads, pure_bind]
  rcases taken with failure | _ | _ | _ | _ | _ <;> try rfl
  -- A managed operator has both readers asked, the second one only when the first has answered.
  simp only [Dialogue.call_bind, Dialogue.run_ask, Readings.answer, Readings.learnt, pure_bind]
  cases r.infrastructure clusterName with
  | error failure => rfl
  | ok infrastructure =>
    simp only [Dialogue.run_ask, Readings.answer, pure_bind]
    cases r.featureGate clusterName <;> rfl

/-- A sync that nobody interrupts starts what is due on what it learns, and changes nothing else. -/
theorem syncWith_turn (r : Readings) {state : Routine (Except Failure (Option ManagementState))}
    {taken : Except Failure (Option ManagementState)} (reads : state.run r.answer = pure taken)
    (s : Starter) :
    r.turn (syncWith state) s =
      let due := startDue (dueOn (r.learnt taken) s.catalog) s.ledger s.bundles
      ⟨(r.learnt taken).map fun _ => due.2.2.map (·.descriptor.conditionPrefix), due.2.2,
        { s with bundles := due.1, ledger := due.2.1 }⟩ := by
  -- The operator is given back once, with what has been started.
  simp only [Readings.turn, syncWith, Dialogue.call_bind, Dialogue.run_ask, Dialogue.run_bind,
    survey_run r reads, Readings.answer, pure_bind]
  rcases r.learnt taken with failure | _ | ⟨infrastructure, gate⟩
  -- Without a snapshot no driver is due.
  · rw [dueOn_nothing (by simp), startDue_never]
    rfl
  · rw [dueOn_nothing (by simp), startDue_never]
    rfl
  · simp only [Dialogue.run_ask, Dialogue.run_bind, announceAll_run]
    rfl

namespace Visit

/-- What the caller gets back: the names of the running bundles, or of those that were started. -/
def reply (v : Visit) (s : Starter) (starts : List Start) : Reply :=
  -- A list of running bundles is not changed by the call that asks for it.
  match v.demand with
  | .running => .ok s.running
  | _ => v.snapshot.map fun _ => starts.map (·.descriptor.conditionPrefix)

/-- A call that nobody interrupts starts the eligible bundles and changes nothing else. -/
theorem turn_eq (v : Visit) (s : Starter) :
    v.turn s =
      let due := startDue (v.isEligible s.catalog) s.ledger s.bundles
      ⟨v.reply s due.2.2, due.2.2, { s with bundles := due.1, ledger := due.2.1 }⟩ := by
  -- The demand decides what is learnt, and a turn is the activation of what is due by that.
  rcases v with ⟨readings, demand⟩
  cases demand with
  | sync => exact syncWith_turn readings (by rfl) s
  | syncObserved storage => exact syncWith_turn readings (by rfl) s
  | running =>
    -- Asking for the running bundles learns nothing, so that nothing is due.
    rw [show (⟨readings, .running⟩ : Visit).isEligible s.catalog = fun _ => false from rfl,
      startDue_never]
    rfl

end Visit

end CsiOperator.Starter
