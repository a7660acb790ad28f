import CsiOperator.Api.Recorder
import CsiOperator.Proofs.Api.Conversation
import CsiOperator.Proofs.Starter.Reconcile

/-! What becomes of reports and announcements has no influence on which bundles start. -/

namespace CsiOperator.Starter

open Api (Recorder Request)

/-- A reconcile in front of a server that takes its announcements. -/
structure Broadcast extends Round where
  /-- What the server replies to the announcements, in order. -/
  replies : Nat → Api.Reply

/-- What a reconcile leaves behind on its way, with its announcements. -/
structure Office extends Desk where
  /-- Who announces. -/
  recorder : Recorder
  /-- The requests that have announced something. -/
  requests : List Request

/-- What there is between two reconciles. -/
structure Post extends Situation where
  /-- Who announces. -/
  recorder : Recorder

/-- What a reconcile has come to, and its sync before the report. -/
structure Cycle where
  /-- What the sync has come to. -/
  outcome : Reply
  /-- The starts in order. -/
  starts : List Start
  /-- The failure to write the conditions, if they were to be written and could not. -/
  unwritten : Option Failure
  /-- When to reconcile again, or what went wrong. -/
  reply : Except Failure Nat
  /-- What there is afterwards. -/
  post : Post

namespace Broadcast

/-- Answers the calls of a reconcile. The server is told what is announced, whatever it replies. -/
def answer (b : Broadcast) : (q : Call ⊕ Degraded.Call) →
    StateM Office (Sum.elim Call.Answer Degraded.Call.Answer q)
  -- Announcing changes the recorder and the requests, and everything else is answered as before.
  | .inl (.announce about what) => fun o =>
    let (recorder, requests) :=
      ((o.recorder.announce about what b.now).run (Api.inTurn b.replies)).run o.requests
    ((), { o with recorder, requests })
  | question => fun o =>
    let (value, desk) := (b.toRound.answer question).run o.toDesk
    (value, { o with toDesk := desk })

/-- The office of a reconcile that has just begun. -/
def office (b : Broadcast) (p : Post) : Office :=
  -- The starts and the writes are those of this reconcile alone.
  { memory := ⟨p.starter, []⟩, storage := b.found p.toSituation, writes := [],
    recorder := p.recorder, requests := [] }

/-- Without its announcements, an office is a desk. -/
theorem answer_desk (b : Broadcast) (question : Call ⊕ Degraded.Call) (o : Office) :
    (b.toRound.answer question).run o.toDesk =
      (((b.answer question).run o).1, ((b.answer question).run o).2.toDesk) := by
  -- Only an announcement is answered in another way, and it changes nothing on the desk.
  rcases question with call | call
  · cases call <;> rfl
  · rfl

/-- Two reconciles find the same management state and get the same answers from the readers. -/
structure SeesAlike (b c : Broadcast) : Prop where
  /-- The answers of the readers. -/
  readings : b.toReadings = c.toReadings
  /-- The management state. -/
  desired : b.desired = c.desired

/-- The sync of a reconcile sees nothing of the object but its management state. -/
theorem turn_alike {b c : Broadcast} (alike : b.SeesAlike c) (s t : Situation) (starter : Starter) :
    (b.visit s).turn starter = (c.visit t).turn starter := by
  -- Two rounds see alike when their readings and states are equal, so those are identified.
  obtain ⟨⟨readings, desired, now, written⟩, replies⟩ := b
  obtain ⟨⟨_, _, now', written'⟩, replies'⟩ := c
  obtain ⟨rfl, rfl⟩ := alike
  -- What is eligible depends on the readers and on the state that the object is found in.
  rw [Visit.turn_eq, Visit.turn_eq]
  rfl

variable [Decode.Wording]

/-- A whole reconcile: what it returns, and its office afterwards. -/
def run (b : Broadcast) (resync : Nat) (p : Post) : Except Failure Nat × Office :=
  ((Starter.reconcile resync (b.found p.toSituation)).run b.answer).run (b.office p)

/-- What a whole reconcile comes to. -/
def reconcile (b : Broadcast) (resync : Nat) (p : Post) : Cycle where
  -- Nothing is unwritten when nothing was to be written.
  outcome := b.outcome p.toSituation
  starts := (b.run resync p).2.memory.starts
  unwritten :=
    if (b.run resync p).2.writes.isEmpty then none
    else match b.written with
      | .ok () => none
      | .error failure => some failure
  reply := (b.run resync p).1
  post := ⟨⟨(b.run resync p).2.memory.starter, (b.run resync p).2.storage⟩,
    (b.run resync p).2.recorder⟩

/-- Announcements aside, a reconcile does what it does without a server for them. -/
theorem run_desk (b : Broadcast) (resync : Nat) (p : Post) :
    let turn := (b.visit p.toSituation).turn p.starter
    (b.run resync p).1 = (match b.outcome p.toSituation, b.sent p.toSituation with
      | .error failure, _ => .error failure
      | .ok _, none => .ok resync
      | .ok _, some _ => b.written.map fun _ => resync) ∧
    (b.run resync p).2.memory = ⟨turn.starter, turn.starts⟩ ∧
    ((b.run resync p).2.writes = [] ↔ b.sent p.toSituation = none) := by
  -- The desk of the reconcile is the one that it would have by itself.
  have desk : _ = ((b.run resync p).1, (b.run resync p).2.toDesk) :=
    Dialogue.run_project Office.toDesk b.answer_desk
      (Starter.reconcile resync (b.found p.toSituation)) (b.office p)
  obtain ⟨reply, desk⟩ := Prod.mk.inj ((b.reconcile_run resync p.toSituation).symm.trans desk)
  refine ⟨reply.symm, (congrArg Desk.memory desk).symm, ?_⟩
  rw [← congrArg Desk.writes desk]
  cases b.sent p.toSituation <;> simp

/-- A reconcile starts what its sync starts. -/
theorem reconcile_starts (b : Broadcast) (resync : Nat) (p : Post) :
    (b.reconcile resync p).starts = ((b.visit p.toSituation).turn p.starter).starts :=
  congrArg Memory.starts (b.run_desk resync p).2.1

/-- A reconcile leaves the operator as its sync leaves it. -/
theorem reconcile_starter (b : Broadcast) (resync : Nat) (p : Post) :
    (b.reconcile resync p).post.starter = ((b.visit p.toSituation).turn p.starter).starter :=
  congrArg Memory.starter (b.run_desk resync p).2.1

/-- A failed sync decides the reply, and otherwise a failure to write the conditions does. -/
theorem reconcile_reply (b : Broadcast) (resync : Nat) (p : Post) :
    (b.reconcile resync p).reply =
      match (b.reconcile resync p).outcome, (b.reconcile resync p).unwritten with
      | .error failure, _ => .error failure
      | .ok _, none => .ok resync
      | .ok _, some failure => .error failure := by
  -- The desk tells the reply and what is sent; what is unwritten follows from both.
  obtain ⟨reply, -, written⟩ := b.run_desk resync p
  simp only [reconcile, reply, List.isEmpty_iff, written]
  -- The conditions are written when any are sent.
  cases b.outcome p.toSituation with
  | error failure => rfl
  | ok names =>
    cases b.sent p.toSituation with
    | none => rfl
    | some conditions => cases b.written <;> rfl

end Broadcast

/-- Reconciles that are made one after another. -/
def cycles [Decode.Wording] (resync : Nat) : Post → List Broadcast → List Cycle
  -- Each of them finds the post as the one before has left it.
  | _, [] => []
  | p, b :: rest => b.reconcile resync p :: cycles resync (b.reconcile resync p).post rest

/-- Two reconciles start the same, and leave the same behind except for the report. -/
structure Cycle.Alike (resync : Nat) (a b : Cycle) : Prop where
  /-- The syncs have come to the same. -/
  outcome : a.outcome = b.outcome
  /-- The same bundles have been started in the same order, with the same ledger each time. -/
  starts : a.starts = b.starts
  /-- The operators are the same afterwards. -/
  starter : a.post.starter = b.post.starter
  /-- A failed sync is what both return. -/
  failed : ∀ failure, a.outcome = .error failure →
    a.reply = .error failure ∧ b.reply = .error failure
  /-- After a sync that has succeeded, each returns its own failure to write the conditions if there
  is one, and otherwise when to reconcile again. -/
  succeeded : ∀ names, a.outcome = .ok names → ∀ cycle ∈ [a, b],
    cycle.reply = match cycle.unwritten with
      | none => .ok resync
      | some failure => .error failure

namespace Broadcast

/-- Two reconciles that see the same of the cluster start the same. -/
theorem reconcile_alike [Decode.Wording] {b c : Broadcast} (alike : b.SeesAlike c) (resync : Nat)
    {p q : Post} (same : p.starter = q.starter) :
    (b.reconcile resync p).Alike resync (c.reconcile resync q) := by
  -- The turns are one, so the outcomes and the starters are, too.
  have turn : (b.visit p.toSituation).turn p.starter = (c.visit q.toSituation).turn q.starter := by
    rw [same]
    exact turn_alike alike _ _ _
  have outcome : (b.reconcile resync p).outcome = (c.reconcile resync q).outcome :=
    congrArg Turn.reply turn
  refine ⟨outcome, ?_, ?_, ?_, ?_⟩
  · rw [reconcile_starts, reconcile_starts, turn]
  · rw [reconcile_starter, reconcile_starter, turn]
  · intro failure failed
    rw [reconcile_reply, reconcile_reply, ← outcome, failed]
    exact ⟨rfl, rfl⟩
  · intro names succeeded cycle member
    rcases List.mem_pair.mp member with rfl | rfl
    · rw [reconcile_reply, succeeded]
      cases (b.reconcile resync p).unwritten <;> rfl
    · rw [reconcile_reply, ← outcome, succeeded]
      cases (c.reconcile resync q).unwritten <;> rfl

end Broadcast

/--
Two runs of reconciles that see the same of the cluster are alike, cycle by cycle.

The runs may begin with different objects, and their reports and announcements may fail at any time.
-/
theorem cycles_alike [Decode.Wording] {run other : List Broadcast}
    (alike : List.Forall₂ Broadcast.SeesAlike run other) (resync : Nat) (starter : Starter)
    (storage storage' : Storage) (recorder recorder' : Recorder) :
    List.Forall₂ (Cycle.Alike resync) (cycles resync ⟨⟨starter, storage⟩, recorder⟩ run)
      (cycles resync ⟨⟨starter, storage'⟩, recorder'⟩ other) := by
  -- Each cycle leaves both runs with the same operator for the next one.
  have general : ∀ p q : Post, p.starter = q.starter →
      List.Forall₂ (Cycle.Alike resync) (cycles resync p run) (cycles resync q other) := by
    induction alike with
    | nil => exact fun _ _ _ => .nil
    | cons alike _ ih =>
      intro p q same
      have first := Broadcast.reconcile_alike alike resync same
      exact .cons first (ih _ _ first.starter)
  exact general _ _ rfl

/-- The first of two runs can neither write the conditions nor announce anything, and starts the same. -/
theorem cycles_alike_unreported :
    let _ : Decode.Wording := .brief
    let round (written : Except Failure Unit) (reply : Api.Reply) : Broadcast :=
      { (Visit.managedOn .azure).reported written with replies := fun _ => reply }
    let lost := round (.error (.internal "write" "refused")) (.lost "refused")
    let heard := round (.ok ()) (.answered 201 "")
    let first : Post :=
      ⟨⟨builtin, ⟨Metadata.named clusterName, none, none⟩⟩, Recorder.new "starter" none⟩
    let run := cycles 60 first [lost, lost]
    let other := cycles 60 first [heard, heard]
    run.map (·.reply) = [.error (.internal "write" "refused"), .error (.internal "write" "refused")] ∧
      other.map (·.reply) = [.ok 60, .ok 60] ∧
      run.map (·.starts.map (·.descriptor.conditionPrefix)) = [["AzureDisk", "AzureFile"], []] ∧
      List.Forall₂ (Cycle.Alike 60) run other := by
  intro _ round lost heard first run other
  have seen : lost.SeesAlike heard := ⟨rfl, rfl⟩
  exact ⟨by decide +kernel, by decide +kernel, by decide +kernel,
    cycles_alike (.cons seen (.cons seen .nil)) 60 builtin _ _ _ _⟩

end CsiOperator.Starter
