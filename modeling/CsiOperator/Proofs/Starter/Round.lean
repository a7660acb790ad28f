import CsiOperator.Proofs.Starter.Run
import CsiOperator.Starter.Reconcile

/-! One reconcile from outside: a sync, and then a report of what it has come to. -/

namespace CsiOperator.Starter

/-- What a reconcile finds outside: the answers of the readers, and what comes of writing. -/
structure Round extends Readings where
  /-- The management state of the object by then. -/
  desired : Option ManagementState
  /-- The time. -/
  now : Time.Timestamp
  /-- What comes of writing the conditions. -/
  written : Except Failure Unit

/-- The operator and its object between two reconciles. -/
structure Situation where
  /-- The operator. -/
  starter : Starter
  /-- The object. -/
  storage : Storage

/-- What a reconcile leaves behind on its way. -/
structure Desk where
  /-- The operator and the bundles started so far. -/
  memory : Memory
  /-- The object. -/
  storage : Storage
  /-- The conditions that have been sent, with the name of the object. -/
  writes : List (String × List Condition)

/-- What a reconcile has come to. -/
structure Report where
  /-- When to reconcile again, or what went wrong. -/
  reply : Except Failure Nat
  /-- The conditions that have been sent, with the name of the object. -/
  writes : List (String × List Condition)
  /-- The operator and its object afterwards. -/
  situation : Situation

/-- A sync leaves everything but the operator alone. -/
def Desk.sync {α : Type} (routine : StateM Memory α) : StateM Desk α := fun d =>
  -- The object and what was written about it are put aside meanwhile.
  let (value, memory) := routine.run d.memory
  (value, { d with memory })

namespace Round

/-- An object whose conditions have been sent; they are kept only when they can be written. -/
def stored (r : Round) (storage : Storage) (conditions : List Condition) : Storage :=
  -- A write that fails leaves the object as it was stored.
  match r.written with
  | .ok () => { storage with status := some conditions }
  | .error _ => storage

/-- Answers the calls of a reconcile. -/
def answer (r : Round) : (q : Call ⊕ Degraded.Call) →
    StateM Desk (Sum.elim Call.Answer Degraded.Call.Answer q)
  -- The questions of the sync concern the operator, and those of the report the object.
  | .inl question => Desk.sync (r.toReadings.answer question)
  | .inr .now => return r.now
  | .inr (.write name conditions) => do
    modify fun d => { d with
      storage := r.stored d.storage conditions
      writes := d.writes ++ [(name, conditions)] }
    return r.written

/-- The object as a reconcile finds it. -/
def found (r : Round) (s : Situation) : Storage :=
  { s.storage with managementState := r.desired }

/-- The sync of a reconcile. -/
def visit (r : Round) (s : Situation) : Visit :=
  { r with demand := .syncObserved (r.found s) }

/-- What the sync of a reconcile comes to. -/
def outcome (r : Round) (s : Situation) : Reply :=
  ((r.visit s).turn s.starter).reply

/-- The failure of the sync of a reconcile. -/
def failure (r : Round) (s : Situation) : Option Failure :=
  -- The names of what was started do not matter for the report.
  match r.outcome s with
  | .ok _ => none
  | .error failure => some failure

/-- The sync of a reconcile uses nothing but the operator. -/
theorem left_run {α : Type} (r : Round) (routine : Routine α) :
    routine.left.run r.answer = Desk.sync (routine.run r.toReadings.answer) := by
  -- Its answers are those of the readers, carried over to the desk.
  rw [Dialogue.run_left]
  exact Dialogue.run_carry Desk.sync (fun _ => rfl) (fun _ _ => rfl) _ routine

variable [Decode.Wording]

/-- A whole reconcile. -/
def reconcile (r : Round) (resync : Nat) (s : Situation) : Report :=
  -- It begins with the object at hand, and with nothing started or sent.
  let (reply, d) := ((Starter.reconcile resync (r.found s)).run r.answer).run
    ⟨⟨s.starter, []⟩, r.found s, []⟩
  ⟨reply, d.writes, d.memory.starter, d.storage⟩

/-- The conditions that a reconcile sends, unless they tell what the sync came to already. -/
def sent (r : Round) (s : Situation) : Option (List Condition) :=
  (Degraded.condition (r.failure s) r.now).set (r.found s).conditions

/-- A report sends conditions when they change, and leaves the operator alone. -/
theorem report_run (r : Round) (storage : Storage) (failure : Option Failure) (d : Desk) :
    ((Degraded.report storage failure).right.run r.answer).run d =
      match (Degraded.condition failure r.now).set storage.conditions with
      | none => (.ok (), d)
      | some conditions => (r.written, { d with
          storage := r.stored d.storage conditions
          writes := d.writes ++ [(storage.metadata.anyName, conditions)] }) := by
  -- Once the time is known, the new conditions decide whether anything is sent.
  rw [Dialogue.run_right]
  show ((match (Degraded.condition failure r.now).set storage.conditions with
    | none => .done (.ok ())
    | some conditions => .ask (.write storage.metadata.anyName conditions) .done :
      Dialogue Degraded.Call Degraded.Call.Answer (Except Failure Unit)).run
        fun question => r.answer (.inr question)).run d = _
  split <;> rfl

/-- A reconcile syncs and then reports what the sync came to, starting with nothing sent. -/
theorem reconcile_run (r : Round) (resync : Nat) (s : Situation) :
    ((Starter.reconcile resync (r.found s)).run r.answer).run ⟨⟨s.starter, []⟩, r.found s, []⟩ =
      let turn := (r.visit s).turn s.starter
      (match r.outcome s, r.sent s with
        | .error failure, _ => .error failure
        | .ok _, none => .ok resync
        | .ok _, some _ => r.written.map fun _ => resync,
      ⟨⟨turn.starter, turn.starts⟩,
        match r.sent s with
          | none => r.found s
          | some conditions => r.stored (r.found s) conditions,
        (r.sent s).toList.map fun conditions => ((r.found s).metadata.anyName, conditions)⟩) := by
  -- The sync leaves the object alone, and comes to what it comes to by itself.
  have synced : ((syncObserved (r.found s)).left.run r.answer).run
      ⟨⟨s.starter, []⟩, r.found s, []⟩ =
      let turn := (r.visit s).turn s.starter
      (r.outcome s, ⟨⟨turn.starter, turn.starts⟩, r.found s, []⟩) := by
    rw [left_run]
    rfl
  have reported := r.report_run (r.found s)
  simp only [Starter.reconcile, Dialogue.run_bind_state, synced]
  -- The report depends on whether the sync has failed, and so does what counts in the end.
  cases outcome : r.outcome s with
  | ok names =>
    have clean : r.failure s = none := by simp [failure, outcome]
    simp only [sent, clean, Dialogue.run_bind_state, reported]
    cases (Degraded.condition none r.now).set (r.found s).conditions with
    | none => rfl
    | some conditions =>
      -- Only here does what comes of writing decide what is returned.
      cases r.written <;> rfl
  | error failed =>
    have failure : r.failure s = some failed := by simp [failure, outcome]
    simp only [sent, failure, Dialogue.run_bind_state, reported]
    cases (Degraded.condition (some failed) r.now).set (r.found s).conditions with
    | none => rfl
    | some conditions => rfl

/-- What a reconcile comes to, in terms of what its sync comes to. -/
theorem reconcile_eq (r : Round) (resync : Nat) (s : Situation) :
    r.reconcile resync s =
      ⟨match r.outcome s, r.sent s with
        | .error failure, _ => .error failure
        | .ok _, none => .ok resync
        | .ok _, some _ => r.written.map fun _ => resync,
      (r.sent s).toList.map fun conditions => ((r.found s).metadata.anyName, conditions),
      ((r.visit s).turn s.starter).starter,
      match r.sent s with
        | none => r.found s
        | some conditions => r.stored (r.found s) conditions⟩ := by
  simp only [reconcile, reconcile_run]

end Round

/-- The operator and its object after reconciles that are made one after another. -/
def Situation.after [Decode.Wording] (resync : Nat) (s : Situation) (rounds : List Round) : Situation :=
  rounds.foldl (fun s r => (r.reconcile resync s).situation) s

end CsiOperator.Starter
