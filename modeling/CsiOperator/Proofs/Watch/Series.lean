import CsiOperator.Proofs.Degraded.Overlap
import CsiOperator.Proofs.Degraded.Settled
import CsiOperator.Watch.World

/-! Reconciles whose outcome stays the same write the observed state at most once. -/

namespace CsiOperator.Watch

open Api (Exchange Reply Request Server)
open Degraded (Settled Stored report storagePath words writeRequest)

/-- The requests so far that ask for a change. -/
def World.changes (w : World) : List Request :=
  (w.requests.map (·.2)).filter (·.method == .patch)

/-- A world delivers a storage that the operator reports on, and takes its reports. -/
structure Delivers (w : World) (storage : Storage) : Prop where
  /-- The storage is the one that the server has. -/
  stored : ∃ object, w.server.objects.lookup storagePath = some object ∧ Stored object storage
  /-- It has the name of the cluster's only one. -/
  name : storage.metadata.anyName = clusterName
  /-- The server lets observed states be changed. -/
  accepts : w.refusesStatus = false
  /-- The clock shows an instant that can be told. -/
  clock : w.now.Valid

/-- What is delivered is the storage that the world has. -/
theorem Delivers.storage?_eq {w : World} {storage : Storage} (delivers : Delivers w storage) :
    w.storage? = some storage := by
  -- The storage is read back from the text of the object that the server has.
  obtain ⟨object, there, stored⟩ := delivers.stored
  have path : pathOf? Storage.type.kind = some storagePath := by decide +kernel
  show (pathOf? Storage.type.kind).bind (fun path => (w.server.objects.lookup path).bind
    fun object => (Json.decode Storage.read object.compact).toOption) = some storage
  rw [path, Option.bind_some, there, Option.bind_some, stored.decodes]
  rfl

/-- A world is delivered to in one way only. -/
theorem Delivers.unique {w : World} {storage storage' : Storage} (delivers : Delivers w storage)
    (others : Delivers w storage') : storage = storage' :=
  Option.some.inj (delivers.storage?_eq.symm.trans others.storage?_eq)

/-- Nothing that matters to a report is different. -/
structure Undisturbed (w w' : World) : Prop where
  /-- The objects. -/
  server : w'.server = w.server
  /-- Whether observed states may be changed. -/
  refusesStatus : w'.refusesStatus = w.refusesStatus
  /-- The clock. -/
  now : w'.now = w.now
  /-- The requests that ask for a change. -/
  changes : w'.changes = w.changes

namespace Undisturbed

/-- Nothing is different in the same world. -/
theorem refl (w : World) : Undisturbed w w :=
  ⟨rfl, rfl, rfl, rfl⟩

/-- Nothing is different after two steps that change nothing. -/
theorem trans {w w' w'' : World} (first : Undisturbed w w') (second : Undisturbed w' w'') :
    Undisturbed w w'' :=
  -- Nothing of the world is compared but these four parts, each of which is an equation.
  ⟨second.server.trans first.server, second.refusesStatus.trans first.refusesStatus,
    second.now.trans first.now, second.changes.trans first.changes⟩

/-- The same storage is still delivered. -/
theorem delivers {w w' : World} (same : Undisturbed w w') {storage : Storage}
    (delivers : Delivers w storage) : Delivers w' storage where
  stored := same.server ▸ delivers.stored
  name := delivers.name
  accepts := same.refusesStatus.trans delivers.accepts
  clock := same.now ▸ delivers.clock

end Undisturbed

/-- Who answers a sync: any answers will do that change nothing on the way. -/
structure Surroundings where
  /-- The answers. -/
  answer : (q : Starter.Call) → StateM World q.Answer
  /-- They change nothing. -/
  quiet : ∀ q w, Undisturbed w ((answer q).run w).2

namespace Surroundings

/-- A sync as a whole changes nothing. -/
theorem quiet_run (s : Surroundings) {α : Type} (d : Dialogue Starter.Call Starter.Call.Answer α)
    (w : World) : Undisturbed w ((d.run s.answer).run w).2 := by
  -- A sync is any number of answers, none of which changes anything.
  induction d generalizing w with
  | done value => exact .refl w
  | ask question next ih => exact (s.quiet question w).trans (ih _ _)

/-- Answers the calls of a reconcile. -/
def call (s : Surroundings) : (q : Starter.Call ⊕ Degraded.Call) →
    StateM World (Sum.elim Starter.Call.Answer Degraded.Call.Answer q)
  -- Only the sync depends on its surroundings; a report asks for the clock and the server.
  | .inl q => s.answer q
  | .inr q => World.reportCall q

/-- What a sync comes to. -/
def outcome (s : Surroundings) (storage : Storage) (w : World) : Option Failure :=
  -- What was started does not matter for the report.
  match (((Starter.syncObserved storage).run s.answer).run w).1 with
  | .ok _ => none
  | .error failure => some failure

/-- What a sync comes to depends on what is desired of the operator, and on nothing else of the storage. -/
theorem outcome_congr (s : Surroundings) {storage storage' : Storage}
    (same : storage.managementState = storage'.managementState) (w : World) :
    s.outcome storage w = s.outcome storage' w := by
  simp only [outcome, Starter.syncObserved, same]

end Surroundings

/-- A request that is not refused is kept, and the server answers it. -/
theorem answer_run {w : World} {request : Request}
    (accepts : (w.refusesStatus && request.method == .patch) = false) :
    (World.answer request).run w = ((w.server.answer request).1, { w with
      requests := w.requests ++ [(w.time, request)]
      server := (w.server.answer request).2 }) := by
  -- The server is asked only if the request is not refused.
  show ((if w.refusesStatus && request.method == .patch then
      (pure (Server.refusal 500 "InternalError" "status rejected") : StateM World Reply)
    else do
      set { w with
        requests := w.requests ++ [(w.time, request)], server := (w.server.answer request).2 }
      return (w.server.answer request).1).run
        { w with requests := w.requests ++ [(w.time, request)] }) = _
  rw [accepts]
  rfl

/-- An exchange that only reads changes nothing. -/
theorem exchange_quiet {α : Type} {e : Exchange α}
    (reads : e.AsksOnly fun request => request.method = .get) (w : World) :
    Undisturbed w ((World.exchange e).run w).2 := by
  -- Induction on the questions of the exchange: every one of them only reads.
  induction reads generalizing w with
  | done value => exact .refl w
  | @ask request next reads _ ih =>
    have answered : Undisturbed w ((World.answer request).run w).2 := by
      rw [answer_run (by rw [reads]; exact Bool.and_false _)]
      -- Only the request is added, and it asks for no change.
      have unchanged : (w.server.answer request).2 = w.server := by
        simp only [Server.answer, reads]
        split <;> rfl
      refine ⟨unchanged, rfl, rfl, ?_⟩
      simp [World.changes, reads]
    exact answered.trans (ih _ _)

/-- Getting an object only reads. -/
theorem get_asks (α : Type) [Kind α] (name : String) :
    (Api.get α name).AsksOnly fun request => request.method = .get := by
  -- Getting asks one question, if its request can be made at all; the rest looks at the reply.
  have asks : (Api.exchange (Request.get (Api.collection (Kind.type α) none) name)
      (Kind.read : Json.Tree → Decode.Read α)).AsksOnly fun request => request.method = .get := by
    cases made : Request.get (Api.collection (Kind.type α) none) name with
    | error failure => exact .done _
    | ok request =>
      refine .ask ?_ fun _ => .done _
      simp only [Request.get, Failure.bind_ok_iff, Failure.pure_ok_iff] at made
      obtain ⟨_, -, target, -, rfl⟩ := made
      rfl
  have found : (Api.get? α name).AsksOnly fun request => request.method = .get := by
    refine Dialogue.AsksOnly.bind asks fun reply => ?_
    split
    · exact .done _
    · split <;> exact .done _
    · exact .done _
  refine Dialogue.AsksOnly.bind found fun reply => ?_
  split <;> exact .done _

/-- The answers that the operator gets from its own world. -/
def Surroundings.served : Surroundings where
  answer := World.starterCall
  quiet q w := by
    -- Three of the calls are answered from the server, by requests that only read.
    cases q with
    | acquire => exact .refl w
    | managementState =>
      exact exchange_quiet (Dialogue.AsksOnly.bind (get_asks Storage _) fun _ => .done _) w
    | infrastructure name => exact exchange_quiet (get_asks Infrastructure name) w
    | featureGate name => exact exchange_quiet (get_asks FeatureGate name) w
    | release starter starts => exact ⟨rfl, rfl, rfl, rfl⟩
    | announce about what => exact .refl w

/-- The server replaces the conditions of the storage when it is asked to. -/
theorem answer_writeRequest (s : Server) (conditions : List Condition) :
    s.answer (writeRequest conditions) =
      s.mergeStatus storagePath (Api.conditionsChange conditions) := by
  -- The path of the request is that of the observed state, which leads to the object.
  have path : Server.ofStatusPath? (storagePath ++ "/status") = some storagePath := by
    decide +kernel
  simp only [Server.answer, writeRequest, path]
  rfl

section

variable [Decode.Wording]

/-- What a report leaves behind. -/
structure Reported (w w' : World) (storage : Storage) (outcome : Option String) : Prop where
  /-- What is delivered then tells the outcome, and desires what it has desired before. -/
  delivers : ∃ storage', Delivers w' storage' ∧ Settled storage'.conditions outcome ∧
    storage'.managementState = storage.managementState
  /-- At most one change has been asked for, and none if the storage has told the outcome before. -/
  sent : w'.changes = w.changes ∨
    ¬ Settled storage.conditions outcome ∧ ∃ request, w'.changes = w.changes ++ [request]

/-- A report is told the time of the world. -/
theorem report_world (storage : Storage) (failure : Option Failure) (w : World) :
    ((report storage failure).run World.reportCall).run w =
      ((((Degraded.condition failure w.now).set storage.conditions).elim (.done (.ok ()))
        fun conditions => .ask (.write storage.metadata.anyName conditions) .done :
          Dialogue Degraded.Call _ (Except Failure Unit)).run World.reportCall).run w := by
  -- The clock is the only question that is asked before the report itself.
  rw [Degraded.report_eq]
  rfl

/-- A report writes what its storage does not tell yet, and then the storage tells it. -/
theorem Delivers.reported {w : World} {storage : Storage} (delivers : Delivers w storage)
    (failure : Option Failure) :
    Reported w (((report storage failure).run World.reportCall).run w).2 storage
      (words failure) := by
  -- Either there is nothing to write, and the world stays as it is, or there is one request.
  cases set : (Degraded.condition failure w.now).set storage.conditions with
  | none =>
    have unchanged : (((report storage failure).run World.reportCall).run w).2 = w := by
      rw [report_world, set]
      rfl
    rw [unchanged]
    exact ⟨⟨storage, delivers, Degraded.settled_of_none set, rfl⟩, .inl rfl⟩
  | some conditions =>
    -- The request is answered, and whatever the reply is, nothing follows.
    have written : (((report storage failure).run World.reportCall).run w).2 =
        ((World.answer (writeRequest conditions)).run w).2 := by
      rw [report_world, set, delivers.name]
      show (((Api.patchConditions clusterName conditions).run World.answer).run w).2 = _
      rw [Degraded.patchConditions_eq]
      rfl
    obtain ⟨object, there, stored⟩ := delivers.stored
    have clock : (Degraded.condition failure w.now).lastTransitionTime.Valid := by
      rw [Degraded.condition_time]
      exact delivers.clock
    -- The times of what is stored can be told, the old ones and that of the report.
    have times := Degraded.set_times set clock stored.times
    obtain ⟨object', storage', there', stored', same, state, name⟩ :=
      stored.mergeStatus there times
    rw [written, answer_run (by rw [delivers.accepts]; rfl), answer_writeRequest]
    refine ⟨⟨storage', ⟨⟨object', there', stored'⟩, name.trans delivers.name, delivers.accepts,
      delivers.clock⟩, ?_, state⟩, .inr ⟨?_, writeRequest conditions, ?_⟩⟩
    · rw [same]
      exact Degraded.settled_of_set set
    · intro settled
      rw [settled failure w.now rfl] at set
      cases set
    · simp [World.changes, writeRequest]

/-- A reconcile leaves behind what a report of its outcome leaves after the sync. -/
theorem reconcile_world (s : Surroundings) (resync : Nat) (storage : Storage) (w : World) :
    (((Starter.reconcile resync storage).run s.call).run w).2 =
      (((report storage (s.outcome storage w)).run World.reportCall).run
        (((Starter.syncObserved storage).run s.answer).run w).2).2 := by
  -- The calls of the sync and of the report are told apart by the side that they come from.
  have synced : ((Starter.syncObserved storage).left.run s.call).run w =
      ((Starter.syncObserved storage).run s.answer).run w := by
    rw [Dialogue.run_left]
    rfl
  have right (failure : Option Failure) (w : World) :
      ((report storage failure).right.run s.call).run w =
        ((report storage failure).run World.reportCall).run w := by
    rw [Dialogue.run_right]
    rfl
  simp only [Starter.reconcile, Dialogue.run_bind_state, synced]
  -- What is returned depends on the report, but what is left behind does not.
  cases result : (((Starter.syncObserved storage).run s.answer).run w).1 with
  | ok names =>
    have outcome : s.outcome storage w = none := by rw [Surroundings.outcome, result]
    simp only [outcome, Dialogue.run_bind_state, right]
    split <;> rfl
  | error failure =>
    have outcome : s.outcome storage w = some failure := by rw [Surroundings.outcome, result]
    simp only [outcome, Dialogue.run_bind_state, right]
    rfl

/-- A reconcile writes what its storage does not tell yet, and then the storage tells it. -/
theorem Delivers.reconciled {w : World} {storage : Storage} (delivers : Delivers w storage)
    (s : Surroundings) (resync : Nat) :
    Reported w (((Starter.reconcile resync storage).run s.call).run w).2 storage
      (words (s.outcome storage w)) := by
  -- Whatever the sync has read, the report finds the world as it was before.
  have quiet := s.quiet_run (Starter.syncObserved storage) w
  obtain ⟨told, sent⟩ := (quiet.delivers delivers).reported (s.outcome storage w)
  rw [quiet.changes] at sent
  rw [reconcile_world]
  exact ⟨told, sent⟩

/-- One reconcile of a run: what its sync comes to in words, and the changes that it asks for. -/
structure Cycle where
  /-- The words. -/
  outcome : Option String
  /-- The requests. -/
  sent : List Request

/-- Others do something that leaves the storage with its conditions, and they do not speak for the
operator. -/
structure Elsewhere (w w' : World) : Prop where
  /-- The storage that is delivered has the same conditions as before. -/
  delivers : ∃ storage storage', Delivers w storage ∧ Delivers w' storage' ∧
    storage'.conditions = storage.conditions
  /-- The operator has sent nothing more. -/
  changes : w'.changes = w.changes

/-- Reconciles one after another, each with the storage that the world delivers by then. -/
inductive Cycles (resync : Nat) : World → List Cycle → World → Prop
  /-- None. -/
  | nil (w : World) : Cycles resync w [] w
  /-- Others do something in between. -/
  | elsewhere {w w' w'' : World} {cycles : List Cycle} : Elsewhere w w' → Cycles resync w' cycles w'' →
    Cycles resync w cycles w''
  /-- The operator reconciles, whatever answers its sync gets. -/
  | cycle {w w' w'' : World} {cycles : List Cycle} {storage : Storage} {sent : List Request}
    (s : Surroundings) : w.storage? = some storage →
    (((Starter.reconcile resync storage).run s.call).run w).2 = w' →
    w'.changes = w.changes ++ sent → Cycles resync w' cycles w'' →
    Cycles resync w (⟨words (s.outcome storage w), sent⟩ :: cycles) w''

namespace Cycles

variable {resync : Nat} {w w' : World} {cycles : List Cycle}

/-- A run of reconciles can be taken apart anywhere. -/
theorem append {before after : List Cycle} (run : Cycles resync w (before ++ after) w') :
    ∃ mid, Cycles resync w before mid ∧ Cycles resync mid after w' := by
  -- The run is followed by its own steps, until those of the first part are used up.
  generalize whole : before ++ after = cycles at run
  induction run generalizing before with
  | nil w =>
    obtain ⟨rfl, rfl⟩ := List.append_eq_nil_iff.mp whole
    exact ⟨w, .nil w, .nil w⟩
  | elsewhere other _ ih =>
    obtain ⟨mid, first, second⟩ := ih whole
    exact ⟨mid, .elsewhere other first, second⟩
  | cycle s delivered reconciles sends later ih =>
    cases before with
    | nil =>
      obtain rfl : after = _ := whole
      exact ⟨_, .nil _, .cycle s delivered reconciles sends later⟩
    | cons first rest =>
      obtain ⟨rfl, rest⟩ := List.cons.inj whole
      obtain ⟨mid, early, late⟩ := ih rest
      exact ⟨mid, .cycle s delivered reconciles sends early, late⟩

/-- A run may follow another one. -/
theorem trans {w'' : World} {more : List Cycle} (run : Cycles resync w cycles w')
    (later : Cycles resync w' more w'') : Cycles resync w (cycles ++ more) w'' := by
  -- By induction on the first run, in front of whose end the other one begins.
  induction run with
  | nil => exact later
  | elsewhere other _ ih => exact .elsewhere other (ih later)
  | cycle s delivered reconciles sends _ ih => exact .cycle s delivered reconciles sends (ih later)

/-- Reconciles keep a storage delivered. -/
theorem delivers (run : Cycles resync w cycles w') {storage : Storage}
    (begins : Delivers w storage) : ∃ storage', Delivers w' storage' := by
  -- Others keep a storage delivered by what is asked of them, and a reconcile does by its report.
  induction run generalizing storage with
  | nil => exact ⟨storage, begins⟩
  | elsewhere other _ ih =>
    obtain ⟨_, _, -, after, -⟩ := other.delivers
    exact ih after
  | cycle s delivered reconciles sends _ ih =>
    obtain rfl : _ = storage := Option.some.inj (delivered.symm.trans begins.storage?_eq)
    obtain ⟨⟨storage', after, -⟩, -⟩ := begins.reconciled s resync
    exact ih (reconciles ▸ after)

/-- Once the storage tells an outcome, reconciles that come to it ask for no change. -/
theorem settled (run : Cycles resync w cycles w') {storage : Storage} (begins : Delivers w storage)
    {outcome : Option String} (settled : Settled storage.conditions outcome)
    (same : ∀ c ∈ cycles, c.outcome = outcome) : cycles.flatMap Cycle.sent = [] := by
  -- By induction on the run: a reconcile with the same outcome finds nothing to change.
  induction run generalizing storage with
  | nil => rfl
  -- Others leave the conditions alone, so the storage goes on telling the outcome.
  | elsewhere other _ ih =>
    obtain ⟨_, _, before, after, conditions⟩ := other.delivers
    obtain rfl := begins.unique before
    exact ih after (conditions ▸ settled) same
  | @cycle _ _ _ _ _ sent s delivered reconciles sends _ ih =>
    obtain rfl : _ = storage := Option.some.inj (delivered.symm.trans begins.storage?_eq)
    obtain ⟨first, same⟩ := List.forall_mem_cons.mp same
    obtain ⟨⟨storage', after, told, -⟩, asked⟩ := begins.reconciled s resync
    subst reconciles
    have first : words (s.outcome _ _) = outcome := first
    rw [first] at told asked
    have none : sent = [] := by
      rcases asked with quiet | ⟨unsettled, -⟩
      · exact List.append_cancel_left (sends.symm.trans (quiet.trans (List.append_nil _).symm))
      · exact absurd settled unsettled
    simp [none, ih after told same]

/-- Reconciles that come to one outcome ask for at most one change. -/
theorem sent_le_one (run : Cycles resync w cycles w') {storage : Storage}
    (begins : Delivers w storage) {outcome : Option String}
    (same : ∀ c ∈ cycles, c.outcome = outcome) : (cycles.flatMap Cycle.sent).length ≤ 1 := by
  -- By induction on the run: after the first change the storage tells the outcome.
  induction run generalizing storage with
  | nil => simp
  | elsewhere other _ ih =>
    obtain ⟨_, _, -, after, -⟩ := other.delivers
    exact ih after same
  | cycle s delivered reconciles sends later _ =>
    obtain rfl : _ = storage := Option.some.inj (delivered.symm.trans begins.storage?_eq)
    obtain ⟨first, same⟩ := List.forall_mem_cons.mp same
    obtain ⟨⟨storage', after, told, -⟩, asked⟩ := begins.reconciled s resync
    subst reconciles
    have first : words (s.outcome _ _) = outcome := first
    rw [first] at told
    -- Only the first reconcile may ask for a change, since the storage tells the outcome then.
    have others := settled later after told same
    rw [List.flatMap_cons, others, List.append_nil]
    rcases asked with quiet | ⟨-, request, one⟩
    · have none := List.append_cancel_left (sends.symm.trans (quiet.trans (List.append_nil _).symm))
      simp [none]
    · have single := List.append_cancel_left (sends.symm.trans one)
      simp [single]

end Cycles

/-- A reconcile of the operator in its own world is one of a run, and leaves the desired state alone. -/
theorem Delivers.cycle {w : World} {storage : Storage} (delivers : Delivers w storage)
    (resync time : Nat) : ∃ sent storage', Cycles resync w
        [⟨words (Surroundings.served.outcome storage { w with time }), sent⟩]
          ((World.reconcile resync time).run w).2 ∧
      Delivers ((World.reconcile resync time).run w).2 storage' ∧
      storage'.managementState = storage.managementState := by
  -- The time is set before the sync, and that is a step of others.
  have later : Delivers { w with time } storage :=
    ⟨delivers.stored, delivers.name, delivers.accepts, delivers.clock⟩
  have waited : Elsewhere w { w with time } := ⟨⟨storage, storage, delivers, later, rfl⟩, rfl⟩
  have calls : Surroundings.served.call = World.call := by
    funext q
    cases q <;> rfl
  -- The operator reconciles what the world has, which is what it delivers.
  have reconciles : ((World.reconcile resync time).run w).2 =
      (((Starter.reconcile resync storage).run Surroundings.served.call).run { w with time }).2 := by
    simp only [World.reconcile, StateT.run_bind, StateT.run_modify, StateT.run_get, pure_bind,
      later.storage?_eq, calls]
    rfl
  obtain ⟨⟨storage', after, -, state⟩, sent⟩ := later.reconciled Surroundings.served resync
  rw [← reconciles] at sent after
  have changes : ∃ sent, ((World.reconcile resync time).run w).2.changes =
      World.changes { w with time } ++ sent := by
    rcases sent with same | ⟨-, request, one⟩
    · exact ⟨[], same.trans (List.append_nil _).symm⟩
    · exact ⟨[request], one⟩
  obtain ⟨sent, changes⟩ := changes
  have cycle := Cycles.cycle Surroundings.served later.storage?_eq reconciles.symm changes (.nil _)
  exact ⟨sent, storage', .elsewhere waited cycle, after, state⟩

/--
A report that has been stored is not made again, and so reconciles do not keep each other going.

Of the reconciles in any run, those that follow each other with the same outcome ask for at most one
change together, whatever answers their syncs get.
-/
theorem reports_settle :
    (∀ (s : Server) (path : String) (object : Json) (storage : Storage),
      s.objects.lookup path = some object → Stored object storage →
      ∀ failure now result name conditions, now.Valid →
        Degraded.writes storage failure now result = [(name, conditions)] →
        ∃ object' storage',
          (s.mergeStatus path (Api.conditionsChange conditions)).2.objects.lookup path =
            some object' ∧
          Json.decode Storage.read object'.compact = .ok storage' ∧
          storage'.conditions = conditions ∧
          ∀ failure' later result', words failure' = words failure →
            Degraded.writes storage' failure' later result' = []) ∧
    ∀ resync w storage cycles w', Delivers w storage → Cycles resync w cycles w' →
      ∀ series outcome, series <:+: cycles → (∀ c ∈ series, c.outcome = outcome) →
        (series.flatMap Cycle.sent).length ≤ 1 := by
  -- The first half is about one write at the server, and the second one about a whole run.
  refine ⟨?stored, ?series⟩
  case stored =>
    intro s path object storage there stored failure now result name conditions clock sends
    rw [Degraded.writes_eq] at sends
    -- Only conditions that change are sent.
    obtain ⟨changed, set, same⟩ : ∃ changed,
        (Degraded.condition failure now).set storage.conditions = some changed ∧
          changed = conditions := by
      cases set : (Degraded.condition failure now).set storage.conditions with
      | none => simp [set] at sends
      | some changed => exact ⟨changed, rfl, by simpa [set] using congrArg (·.map Prod.snd) sends⟩
    subst same
    have own : (Degraded.condition failure now).lastTransitionTime.Valid := by
      rw [Degraded.condition_time]
      exact clock
    obtain ⟨object', storage', there', stored', read, -, -⟩ :=
      stored.mergeStatus there (Degraded.set_times set own stored.times)
    refine ⟨object', storage', there', stored'.decodes, read, ?_⟩
    intro failure' later result' same
    rw [Degraded.writes_eq, read, Degraded.settled_of_set set failure' later same]
    rfl
  case series =>
    intro resync w storage cycles w' delivers run series outcome part same
    obtain ⟨before, after, rfl⟩ := part
    -- The series is a run of its own, from where the reconciles before it have left the world.
    obtain ⟨mid, run, -⟩ := run.append
    obtain ⟨start, early, run⟩ := run.append
    obtain ⟨storage', delivers⟩ := early.delivers delivers
    exact run.sent_le_one delivers same

end

/-- The condition of another client. -/
def progressing : Json :=
  -- Its type is none of those that the operator sets.
  .record [("type", some (.text "Progressing")), ("status", some (.text "False")),
    ("lastTransitionTime", some (.text "2024-01-02T03:04:05Z"))]

/-- A storage of a managed operator, with the condition of another client. -/
def lonelyObject : Json :=
  -- There is no version in it, since the server puts one in.
  .record [("metadata", some (.record [("name", some (.text "cluster"))])),
    ("spec", some (.record [("managementState", some (.text "Managed"))])),
    ("status", some (.record [("conditions", some (.array [progressing]))]))]

/-- A world that has only that storage, so that the operator finds no infrastructure in it. -/
def lonelyWorld : World :=
  -- The operator has no bundles, as none could start here.
  ⟨⟨[], Ledger.empty, FeatureCatalog.builtin⟩, ⟨1, [(storagePath, lonelyObject)]⟩, false, 0, ⟨0, 0⟩,
    [], []⟩

/-- What the operator fails with there. -/
def noInfrastructure : Failure :=
  .notFound "Infrastructure" clusterName

/-- The world delivers the storage, whose only condition is that of the other client. -/
theorem lonelyWorld_delivers : ∃ storage, Delivers lonelyWorld storage ∧
    Stored lonelyObject storage ∧ storage.metadata.anyName = clusterName ∧
    storage.managementState = some .managed ∧
    storage.conditions = [⟨"Progressing", .fails, "", "", ⟨1704164645, 0⟩⟩] := by
  -- What is read of the text of the object is what is read of its tree.
  have read : (Storage.read (lonelyObject.tree Json.maxDepth)).toOption.map (fun storage =>
      (storage.metadata.anyName, storage.managementState, storage.conditions)) =
        some (clusterName, some .managed, [⟨"Progressing", .fails, "", "", ⟨1704164645, 0⟩⟩]) := by
    decide +kernel
  rw [← Json.decode_compact Storage.read] at read
  obtain ⟨storage, decodes, same⟩ := Option.map_eq_some_iff.mp read
  rw [Failure.toOption_eq_some_iff] at decodes
  obtain ⟨name, state, conditions⟩ : storage.metadata.anyName = clusterName ∧
    storage.managementState = some .managed ∧
      storage.conditions = [⟨"Progressing", .fails, "", "", ⟨1704164645, 0⟩⟩] := by simpa using same
  -- All its parts are records of a few fields.
  have distinct : lonelyObject.Distinct := by
    have part {key : String} {json : Json} (sound : json.Distinct) :
        (Json.record [(key, some json)]).Distinct :=
      Json.distinct_record (by simp) (by simpa using sound)
    have condition : progressing.Distinct := Json.distinct_record (by decide) (by simp [Json.Distinct.text])
    have listed : (Json.array [progressing]).Distinct := .array (by simpa using condition)
    refine Json.distinct_record (by decide) ?_
    simp [part (.text _), part listed]
  have stored : Stored lonelyObject storage := ⟨⟨_, rfl, distinct⟩, decodes⟩
  have clock : Time.Timestamp.Valid ⟨0, 0⟩ := ⟨by decide, .inl (by decide)⟩
  exact ⟨storage, ⟨⟨_, rfl, stored⟩, name, rfl, clock⟩, stored, name, state, conditions⟩

/-- A failure beside the condition of another client is reported once, and stays as it is from then on. -/
theorem reports_settle_lonely :
    let _ : Decode.Wording := .brief
    let told : Condition := Degraded.condition (some noInfrastructure) ⟨0, 0⟩
    ∃ storage object storage' changed, storage.conditions.map (·.type) = ["Progressing"] ∧
      changed = storage.conditions ++ [told] ∧
      Degraded.writes storage (some noInfrastructure) ⟨0, 0⟩ (.ok ()) = [(clusterName, changed)] ∧
      (lonelyWorld.server.mergeStatus storagePath
        (Api.conditionsChange changed)).2.objects.lookup storagePath = some object ∧
      Json.decode Storage.read object.compact = .ok storage' ∧
      Degraded.writes storage' (some noInfrastructure) ⟨60, 0⟩ (.ok ()) = [] ∧
      ∃ first second, Cycles 300 lonelyWorld [⟨some noInfrastructure.message, first⟩,
          ⟨some noInfrastructure.message, second⟩]
          ((World.reconcile 300 1000).run ((World.reconcile 300 0).run lonelyWorld).2).2 ∧
        (first ++ second).length ≤ 1 := by
  -- The two reconciles are steps of one run, to which the law on its series applies.
  intro _ told
  obtain ⟨storage, delivers, stored, name, state, conditions⟩ := lonelyWorld_delivers
  have sends : Degraded.writes storage (some noInfrastructure) ⟨0, 0⟩ (.ok ()) =
      [(clusterName, storage.conditions ++ [told])] := by
    rw [Degraded.writes_eq, conditions, name]
    rfl
  obtain ⟨object, storage', there, decodes, -, settled⟩ := reports_settle.1 lonelyWorld.server
    storagePath lonelyObject storage rfl stored (some noInfrastructure) ⟨0, 0⟩ (.ok ()) clusterName _
    delivers.clock sends
  refine ⟨storage, object, storage', _, by rw [conditions]; rfl, rfl, sends, there, decodes,
    settled (some noInfrastructure) ⟨60, 0⟩ (.ok ()) rfl, ?_⟩
  obtain ⟨first, again, begins, delivers', same⟩ := delivers.cycle 300 0
  obtain ⟨second, -, follows, -⟩ := delivers'.cycle 300 1000
  -- Both syncs come to the failure, as the report puts nothing but its condition into the world.
  let managed : Storage := ⟨Metadata.named clusterName, some .managed, none⟩
  have early : words (Surroundings.served.outcome managed { lonelyWorld with time := 0 }) =
      some noInfrastructure.message := by decide +kernel
  have late : words (Surroundings.served.outcome managed
      { ((World.reconcile 300 0).run lonelyWorld).2 with time := 1000 }) =
        some noInfrastructure.message := by decide +kernel
  have known : storage.managementState = managed.managementState := state
  rw [Surroundings.outcome_congr _ known, early] at begins
  rw [Surroundings.outcome_congr _ (same.trans known), late] at follows
  have run := begins.trans follows
  refine ⟨first, second, run, ?_⟩
  have bound := reports_settle.2 300 lonelyWorld storage _ _ delivers run _
    (some noInfrastructure.message) List.infix_rfl (by simp)
  simpa using bound

end CsiOperator.Watch
