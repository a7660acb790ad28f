import CsiOperator.Proofs.Starter.Run
import CsiOperator.Starter.Hosted

/-! What a run of calls starts is what its supervisor has been given to run. -/

namespace CsiOperator

/-- Drivers that are started after others come to run behind them. -/
theorem Supervisor.startAll_append (s : Supervisor) (earlier later : List Descriptor) :
    s.startAll (earlier ++ later) = (s.startAll earlier).startAll later := by
  -- Drivers are started one after another, wherever the list is cut.
  rw [startAll, List.foldl_append, ← startAll, ← startAll]

namespace Starter

/-- Readers that answer what is known of one call, and somebody who takes no notice. -/
def Readings.neighbours (r : Readings) : Neighbours Id where
  -- Announcements are lost here, since no sync depends on them.
  managementState := r.managementState
  infrastructure := r.infrastructure
  featureGate := r.featureGate
  hear _ _ := ()

/-- A supervisor after the starts that are remembered, with the operator that is. -/
def Memory.hosted (supervisor : Supervisor) (m : Memory) : Hosted :=
  ⟨m.starter, supervisor.startAll (m.starts.map (·.descriptor))⟩

namespace Hosted

/-- What a call from outside returns, and what it leaves behind. -/
def turn (h : Hosted) (v : Visit) : Reply × Hosted :=
  (v.demand.routine.run (answer v.neighbours)).run h

/-- An operator and its supervisor after calls that are made one after another. -/
def after (h : Hosted) : List Visit → Hosted
  -- The supervisor is handed on with the operator, so it keeps what it runs.
  | [] => h
  | v :: rest => after (h.turn v).2 rest

/-- A question is answered as it is without a supervisor, and what it starts comes to run. -/
theorem answer_memory (r : Readings) (supervisor : Supervisor) (question : Call) (m : Memory) :
    (answer r.neighbours question).run (m.hosted supervisor) =
      (((r.answer question).run m).1, ((r.answer question).run m).2.hosted supervisor) := by
  -- Only giving the operator back touches the supervisor; every reader answers as before.
  cases question with
  | release starter starts =>
    -- What has been started before is remembered in front of what is started now.
    show ((), (m.hosted supervisor).giveBack starter starts) =
      ((), (⟨starter, m.starts ++ starts⟩ : Memory).hosted supervisor)
    rw [giveBack, Memory.hosted, Memory.hosted, List.map_append, Supervisor.startAll_append]
  -- No other question touches the operator or its tasks.
  | _ => rfl

/-- One call starts the controllers of the bundles that it starts, and is otherwise as it is without a
supervisor. -/
theorem turn_eq (h : Hosted) (v : Visit) :
    let plain := v.turn h.starter
    h.turn v =
      (plain.reply, ⟨plain.starter, h.supervisor.startAll (plain.starts.map (·.descriptor))⟩) :=
  -- A memory without starts belongs to the supervisor as the call finds it.
  Dialogue.run_project (Memory.hosted h.supervisor) (answer_memory v.toReadings h.supervisor)
    v.demand.routine ⟨h.starter, []⟩

/-- A run starts the controllers of all bundles that it starts, in the order of the starts. -/
theorem after_eq (h : Hosted) (visits : List Visit) :
    h.after visits = ⟨h.starter.after visits,
      h.supervisor.startAll ((h.starter.starts visits).map (·.descriptor))⟩ := by
  -- Every call finds the operator and the tasks as the calls before it leave them.
  induction visits generalizing h with
  | nil => rfl
  | cons v rest ih =>
    rw [after, ih, turn_eq, starts_cons, List.map_append, Supervisor.startAll_append]
    rfl

end Hosted

end Starter

end CsiOperator
