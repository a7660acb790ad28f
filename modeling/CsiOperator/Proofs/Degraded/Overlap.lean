import CsiOperator.Api.Status
import CsiOperator.Proofs.Api.Conversation
import CsiOperator.Proofs.Api.Traffic
import CsiOperator.Proofs.Starter.Reconcile

/-! Reports that overlap with other clients put back what their storage was delivered with. -/

namespace CsiOperator.Degraded

open Api (Changes Listing Outcome Reply Request Server Store Stored Traffic converse)

/-- The path of the storage. -/
def storagePath : String :=
  "/apis/operator.openshift.io/v1/storages/cluster"

/-- The request that replaces the conditions of the storage. -/
def writeRequest (conditions : List Condition) : Request :=
  -- The version of the storage is not among the parameters, and not in the change, either.
  ⟨.patch, ⟨storagePath ++ "/status", "&fieldManager=cluster-storage-operator"⟩,
    some "application/merge-patch+json", some (Api.conditionsChange conditions)⟩

/-- The conditions of the storage, each of them as it has been written. -/
def listing : Listing Storage (List Json) where
  -- Conditions are left as they are written, since others may have fields that are not known here.
  path := storagePath
  field := "conditions"
  meaning := some
  found reply := reply.object (Storage.read (ν := Json.Tree))

/-- What a write comes to with its reply. -/
def written (reply : Reply) : Except Failure Unit :=
  -- Nothing of the reply is kept but whether it brought a storage.
  match listing.found reply with
  | .ok _ => .ok ()
  | .error cause => .error (.api cause)

/-- Writing conditions is one request, whose reply decides. -/
theorem patchConditions_eq (conditions : List Condition) :
    Api.patchConditions clusterName conditions =
      .ask (writeRequest conditions) fun reply => .done (written reply) := by
  -- The reply is read as an object, of which only a failure matters.
  refine congrArg (Dialogue.ask (writeRequest conditions)) (funext fun reply => ?_)
  change Dialogue.bind (.done (listing.found reply)) _ = _
  unfold written
  cases listing.found reply <;> rfl

/-- The type of a condition, as it has been written. -/
def typeOf? (condition : Json) : Option String :=
  (condition.get? "type").bind Json.text?

/-- A condition is written under its type. -/
@[simp] theorem typeOf?_toJson (c : Condition) : typeOf? c.toJson = some c.type := rfl

/-- The conditions of other types than the degraded one. -/
def foreign (conditions : List Json) : List Json :=
  conditions.filter (typeOf? · ≠ some conditionType)

/-- Conditions of other types are written as such. -/
theorem foreign_written (conditions : List Condition) :
    foreign (conditions.map Condition.toJson) =
      (conditions.filter (·.type ≠ conditionType)).map Condition.toJson := by
  -- A condition and what is written of it have the same type.
  simp [foreign, List.filter_map, Function.comp_def]

/-- A sync and a report, or what is left of them. -/
abbrev Rest := Dialogue (Starter.Call ⊕ Call) (Sum.elim Starter.Call.Answer Call.Answer)
  (Except Failure Nat)

/-- A reconcile that has begun, with the storage as it has been delivered. -/
structure Reconciling where
  /-- The storage. -/
  storage : Storage
  /-- What is left. -/
  rest : Rest

/-- The storage at a server, and the reconciles that have begun. -/
abbrev World := Traffic (List Json) Reconciling

/-- What happens at the server or to a reconcile. -/
inductive Action where
  /-- A reconcile begins with a storage as it has been delivered, perhaps long after. -/
  | begin (i : Nat) (storage : Storage)
  /-- A reconcile is answered without a write. -/
  | answer (i : Nat)
  /-- Another client writes the conditions. -/
  | write (version : String) (conditions : List Json)
  /-- Another client removes the storage. -/
  | remove
  /-- The server serves the write of a reconcile. -/
  | serve (i : Nat) (outcome : Outcome)

section

variable [Decode.Wording]

/-- One action. -/
inductive Step (resync : Nat) (w : World) : Action → World → Prop
  /-- A reconcile begins; one of its number that has not ended is dropped. -/
  | begin (i : Nat) {storage : Storage} : storage.metadata.anyName = clusterName →
    Step resync w (.begin i storage) (w.suspend i ⟨storage, Starter.reconcile resync storage⟩)
  /-- A question of the sync gets an answer, whatever it is. -/
  | sync {i : Nat} {storage : Storage} {question : Starter.Call}
    {next : question.Answer → Rest} (answer : question.Answer) :
    w.calls i = some ⟨storage, .ask (.inl question) next⟩ →
    Step resync w (.answer i) (w.suspend i ⟨storage, next answer⟩)
  /-- A report is told the time. -/
  | now {i : Nat} {storage : Storage}
    {next : Time.Timestamp → Rest} (now : Time.Timestamp) :
    w.calls i = some ⟨storage, .ask (.inr .now) next⟩ →
    Step resync w (.answer i) (w.suspend i ⟨storage, next now⟩)
  /-- Another client writes what it wants to. -/
  | write {version : String} (conditions : List Json) : version ∉ w.store.used →
    Step resync w (.write version conditions) { w with store := w.store.put version conditions }
  /-- Another client removes the storage. -/
  | remove : Step resync w .remove { w with store := w.store.remove }
  /-- The request of a write is served, and the reconcile goes on with what it has come to. -/
  | serve {i : Nat} {storage : Storage} {name : String} {conditions : List Condition}
    {next : Except Failure Unit → Rest}
    {request : Request} {reply : Reply} {value : Except Failure Unit} {outcome : Outcome}
    {store : Store (List Json)} :
    w.calls i = some ⟨storage, .ask (.inr (.write name conditions)) next⟩ →
    converse (fun _ => reply) (Api.patchConditions name conditions) = (value, [request]) →
    Changes listing w.store request reply outcome store →
    Step resync w (.serve i outcome) ({ w with store }.suspend i ⟨storage, next value⟩)

/-- Any number of actions. -/
abbrev Run (resync : Nat) (w : World) : List Action → World → Prop :=
  Api.Run (Step resync) w

/-- A write is one for a storage when it sets the degraded condition among those delivered. -/
def Fits (storage : Storage) : Starter.Call ⊕ Call → Prop
  -- The conditions that are written are those that were delivered, with one of them set.
  | .inr (.write name conditions) => name = storage.metadata.anyName ∧
    ∃ failure now, (condition failure now).set storage.conditions = some conditions
  | _ => True

/-- A report writes only what fits its storage. -/
theorem report_asks (storage : Storage) (failure : Option Failure) :
    (report storage failure).AsksOnly fun question => Fits storage (.inr question) := by
  -- The time is asked for first, which fits any storage.
  refine .ask trivial fun now => ?_
  -- Only once the time is known can the conditions to be written be told.
  cases set : (condition failure now).set storage.conditions with
  | none => exact .done _
  | some conditions => exact .ask ⟨rfl, failure, now, set⟩ .done

/-- A reconcile writes only what fits its storage. -/
theorem reconcile_asks (resync : Nat) (storage : Storage) :
    (Starter.reconcile resync storage).AsksOnly (Fits storage) := by
  -- The sync writes no conditions at all, and what it comes to decides about the report.
  refine Dialogue.AsksOnly.bind (.left _ fun _ => trivial) fun outcome => ?_
  cases outcome with
  | ok _ =>
    refine (report_asks storage none).right.bind fun reported => ?_
    cases reported with
    | ok _ => exact .done _
    | error _ => exact .done _
  | error failure =>
    exact (report_asks storage (some failure)).right.bind fun _ => .done _

/-- A reconcile under way has the storage of the cluster, and only writes what fits it. -/
structure Fitting (r : Reconciling) : Prop where
  /-- The storage is the one of the cluster. -/
  name : r.storage.metadata.anyName = clusterName
  /-- What is left fits it. -/
  asks : r.rest.AsksOnly (Fits r.storage)

/-- Every reconcile under way fits its storage. -/
def Fitted (w : World) : Prop :=
  w.Every Fitting

namespace Fitted

variable {resync : Nat} {w w' : World}

/-- One action leaves every reconcile fitting. -/
theorem step (fitted : Fitted w) {action : Action} (step : Step resync w action w') :
    Fitted w' := by
  -- An action moves one reconcile at most, and what is left of it is part of what it had to ask.
  cases step with
  | begin i name => exact Traffic.Every.suspend fitted i ⟨name, reconcile_asks ..⟩
  | write | remove => exact fitted
  | sync _ pending | now _ pending | serve pending =>
    -- What follows an answer has been part of what was left before.
    obtain ⟨name, asks⟩ := fitted _ _ pending
    cases asks with
    | ask _ later => exact Traffic.Every.suspend fitted _ ⟨name, later _⟩

/-- Any number of actions leave every reconcile fitting. -/
theorem run (fitted : Fitted w) {actions : List Action} (run : Run resync w actions w') :
    Fitted w' :=
  run.keeps (fun kept step => kept.step step) fitted

end Fitted

/-- What comes of serving a reconcile that has begun with a storage. -/
structure Served (w w' : World) (storage : Storage) (outcome : Outcome) : Prop where
  /-- It is never refused because the storage has changed. -/
  unconditional : outcome ≠ .conflict
  /-- A write leaves of others what the storage has been delivered with. -/
  accepted : outcome = .accepted → ∃ o o', w.store.object = some o ∧ w'.store.object = some o' ∧
    foreign o'.content = foreign (storage.conditions.map Condition.toJson)
  /-- Without a write the storage is as it was. -/
  unchanged : outcome ≠ .accepted → w'.store = w.store

/-- What a reconcile that fits its storage writes are the conditions delivered, but for the degraded
one, whatever others have written since. -/
theorem Fitted.serve {resync : Nat} {w w' : World} (fitted : Fitted w) {i : Nat}
    {outcome : Outcome} (step : Step resync w (.serve i outcome) w') :
    ∃ storage rest, w.calls i = some ⟨storage, rest⟩ ∧ Served w w' storage outcome := by
  -- Of all actions only serving can do this.
  cases step with
  | @serve _ storage name conditions next request reply value _ store pending sends changes =>
    refine ⟨storage, _, pending, ?_⟩
    -- The request can be told from the storage that the reconcile has begun with.
    obtain ⟨cluster, asks⟩ := fitted i _ pending
    obtain ⟨rfl, failure, now, set⟩ : Fits storage (.inr (.write name conditions)) := by
      cases asks with
      | ask fits => exact fits
    have sent : writeRequest conditions = request := by
      rw [show storage.metadata.anyName = clusterName from cluster, patchConditions_eq] at sends
      simpa using congrArg Prod.snd sends
    have body : request.body = some (Api.conditionsChange conditions) := by
      rw [← sent]
      rfl
    cases changes with
    | failed => exact ⟨by simp, by simp, fun _ => rfl⟩
    | conflict asks _ named =>
      -- Only a change that names a version can be refused, and this one names none.
      obtain rfl := Option.some.inj (body.symm.trans asks.body)
      cases named
    | @accepted o change content version asks present _ merged =>
      refine ⟨by simp, fun _ => ⟨o, ⟨version, content⟩, present, rfl, ?_⟩,
        fun other => absurd rfl other⟩
      obtain rfl := Option.some.inj (body.symm.trans asks.body)
      have replaced : conditions.map Condition.toJson = content := Option.some.inj merged
      -- The degraded condition is all that has been set among those delivered.
      have others := Condition.set_others set
      rw [Starter.Round.condition_type] at others
      rw [← replaced, foreign_written, foreign_written, others]

/-- The storage of a reconcile is the one that it has begun with. -/
theorem Run.begun {resync : Nat} {store : Store (List Json)} {actions : List Action} {w : World}
    (run : Run resync (Traffic.start store) actions w) {i : Nat} {r : Reconciling}
    (pending : w.calls i = some r) : Action.begin i r.storage ∈ actions := by
  -- A reconcile gets its storage when it begins, and never another one.
  induction run generalizing i r with
  | nil => cases pending
  | snoc _ step ih =>
    rw [List.mem_append]
    cases step with
    | write | remove => exact .inl (ih pending)
    | begin j name =>
      obtain ⟨rfl, rfl⟩ | ⟨-, waiting⟩ := Traffic.of_suspend pending
      · exact .inr (List.mem_singleton.mpr rfl)
      · exact .inl (ih waiting)
    | sync _ before | now _ before | serve before =>
      -- An answer leaves the storage as it was.
      have begun := ih before
      obtain ⟨rfl, rfl⟩ | ⟨-, waiting⟩ := Traffic.of_suspend pending
      · exact .inl begun
      · exact .inl (ih waiting)

/--
However reconciles and other clients overlap, a report is never refused because the storage has
changed, and one that is accepted puts back what the reconcile has begun with.

So others lose nothing exactly when their conditions are by then those that the storage came with.
-/
theorem reports_put_back {resync : Nat} {store : Store (List Json)} {actions : List Action}
    {w : World} (run : Run resync (Traffic.start store) actions w) {i : Nat} {outcome : Outcome}
    {w' : World} (step : Step resync w (.serve i outcome) w') :
    ∃ storage, Action.begin i storage ∈ actions ∧ Served w w' storage outcome ∧
      ∀ o, w.store.object = some o → ∃ o', w'.store.object = some o' ∧
        (foreign o'.content = foreign o.content ↔ outcome ≠ .accepted ∨
          foreign o.content = foreign (storage.conditions.map Condition.toJson)) := by
  -- What the reconcile writes fits the storage that it has begun with.
  have fitted : Fitted w := Fitted.run (Traffic.Every.start store) run
  obtain ⟨storage, rest, pending, served⟩ := fitted.serve step
  refine ⟨storage, run.begun pending, served, fun o present => ?_⟩
  -- What others have by then counts for nothing in a report that is accepted.
  by_cases changed : outcome = .accepted
  · obtain ⟨before, after, found, written, others⟩ := served.accepted changed
    obtain rfl : before = o := by simpa [found] using present
    exact ⟨after, written, by simp [changed, others, eq_comm]⟩
  · exact ⟨o, served.unchanged changed ▸ present, by simp [changed]⟩

/-- A write to the storage of the cluster may be accepted, whatever becomes of the reply. -/
theorem Step.accepted {resync : Nat} {w : World} {i : Nat} {storage : Storage}
    {conditions : List Condition} {next : Except Failure Unit → Rest}
    (pending : w.calls i = some ⟨storage, .ask (.inr (.write clusterName conditions)) next⟩)
    {o : Stored (List Json)} (present : w.store.object = some o) {version : String}
    (fresh : version ∉ w.store.used) (reply : Reply) :
    Step resync w (.serve i .accepted)
      ({ w with store := w.store.put version (conditions.map Condition.toJson) }.suspend i
        ⟨storage, next (written reply)⟩) := by
  -- The reconcile sends the request that writes its conditions, whatever the reply is.
  have sends : converse (fun _ => reply) (Api.patchConditions clusterName conditions) =
      (written reply, [writeRequest conditions]) := by
    rw [patchConditions_eq]
    rfl
  have unnamed : ∀ v, Server.versionOf (Api.conditionsChange conditions) = some v →
      v = o.version := by
    intro v named
    cases named
  exact .serve pending sends (.accepted ⟨rfl, rfl, rfl, rfl⟩ present unnamed rfl fresh)

/-- The storage of an operator that is not managed, as it is at first. -/
def quiet : Storage where
  -- It has a version, which a write could name.
  metadata := { Metadata.named clusterName with resourceVersion := some "1" }
  managementState := none
  status := none

/-- A condition of another client. -/
def available : Condition :=
  ⟨"Available", .holds, "AsExpected", "", ⟨0, 0⟩⟩

/-- A server that has the storage as it is at first. -/
def quietStore : Store (List Json) :=
  ⟨some ⟨"1", quiet.conditions.map Condition.toJson⟩, ["1"], by simp⟩

/-- Another client writes a condition between the delivery of the storage and a report. -/
theorem overtaken : ∃ w w', Run 300 (Traffic.start quietStore) [.begin 0 quiet, .answer 0,
      .answer 0, .answer 0, .write "2" [available.toJson]] w ∧
    Step 300 w (.serve 0 .accepted) w' ∧ w.store.object = some ⟨"2", [available.toJson]⟩ ∧
      w'.store.object = some ⟨"3", [(condition none ⟨0, 0⟩).toJson]⟩ := by
  -- The actions are taken one by one, as each of them needs the state that the ones before it have
  -- left.
  have start : Run 300 (Traffic.start quietStore) [] _ := .nil
  have begun := start.snoc (.begin 0 (by decide : quiet.metadata.anyName = clusterName))
  let starter : Starter := ⟨[], Ledger.empty, FeatureCatalog.builtin⟩
  -- Without management a sync only gets hold of the operator and gives it back.
  have acquired := begun.snoc (@Step.sync _ _ _ 0 quiet .acquire _ starter rfl)
  have released := acquired.snoc (@Step.sync _ _ _ 0 quiet (.release starter []) _ () rfl)
  have timed := released.snoc (@Step.now _ _ _ 0 quiet _ ⟨0, 0⟩ rfl)
  obtain ⟨w, next, run, pending, stored⟩ : ∃ w next, Run 300 (Traffic.start quietStore)
        [.begin 0 quiet, .answer 0, .answer 0, .answer 0, .write "2" [available.toJson]] w ∧
      w.calls 0 = some ⟨quiet, .ask (.inr (.write clusterName [condition none ⟨0, 0⟩])) next⟩ ∧
      w.store = quietStore.put "2" [available.toJson] :=
    ⟨_, _, timed.snoc (.write [available.toJson] (show "2" ∉ quietStore.used by decide)), rfl, rfl⟩
  have present : w.store.object = some ⟨"2", [available.toJson]⟩ := by rw [stored]; rfl
  have fresh : "3" ∉ w.store.used := by rw [stored]; decide
  exact ⟨w, _, run, .accepted pending present fresh (.lost ""), present, rfl⟩

end

/-- What another client has written meanwhile is gone, because the storage came without it. -/
theorem reports_put_back_overtaken :
    let _ : Decode.Wording := .brief
    ∃ w w' o', Run 300 (Traffic.start quietStore)
        [.begin 0 quiet, .answer 0, .answer 0, .answer 0, .write "2" [available.toJson]] w ∧
      Step 300 w (.serve 0 .accepted) w' ∧ w'.store.object = some o' ∧
        foreign o'.content = [] := by
  -- The general result is applied to the run, and what it says of others is that nothing is left.
  intro _
  obtain ⟨w, w', run, accepted, -, -⟩ := overtaken
  obtain ⟨storage, begun, served, -⟩ := reports_put_back run accepted
  obtain rfl : storage = quiet := by simpa using begun
  obtain ⟨_, after, -, written, others⟩ := served.accepted rfl
  exact ⟨w, w', after, run, accepted, written, others⟩

/-- Reports do not leave alone what other clients have written since the storage was delivered. -/
theorem report_loses_condition :
    let _ : Decode.Wording := .brief
    ¬ ∀ actions w outcome w',
      Run 300 (Traffic.start quietStore) (.begin 0 quiet :: actions) w →
      Step 300 w (.serve 0 outcome) w' →
      ∀ o o', w.store.object = some o → w'.store.object = some o' →
        ∀ json ∈ foreign o.content, json ∈ o'.content := by
  -- Keeping the condition of the other client would contradict what the run has left.
  intro _ kept
  obtain ⟨w, w', run, accepted, before, after⟩ := overtaken
  have written : available.toJson ∈ foreign [available.toJson] := by
    simp [foreign, available, conditionType]
  have still := kept _ w _ w' run accepted _ _ before after _ written
  -- Only the degraded condition is left, and that is of another type.
  have same := congrArg typeOf? (List.mem_singleton.mp still)
  simp [available, condition, conditionType] at same

end CsiOperator.Degraded
