import CsiOperator.Api.Server
import CsiOperator.Api.Snapshot
import CsiOperator.Api.Status
import CsiOperator.Watch.Agenda
import CsiOperator.Watch.Query

/-! An operator in front of the server that stores the objects which it watches. -/

namespace CsiOperator.Watch

open Api (Exchange Reply Request)

/-- The operator, the server, and what has happened between them. -/
structure World where
  /-- The operator. -/
  starter : Starter
  /-- The server. -/
  server : Api.Server
  /-- The server refuses to change observed states. -/
  refusesStatus : Bool
  /-- The milliseconds since the beginning. -/
  time : Nat
  /-- The instant that the clock shows. -/
  now : Time.Timestamp
  /-- The requests with their times. -/
  requests : List (Nat × Request)
  /-- The bundles started, with their times. -/
  starts : List (Nat × String)
  deriving Repr

/-- Something that others do to the watched objects. -/
structure Change where
  /-- The milliseconds since the beginning. -/
  time : Nat
  /-- The instant that the clock shows from then on. -/
  now : Time.Timestamp
  /-- The objects written, by kind. -/
  puts : List (String × Json)
  /-- The kinds of the objects removed. -/
  deletes : List String
  /-- Whether the server refuses to change observed states from then on, if that changes. -/
  refusesStatus : Option Bool
  deriving Repr

/-- The path of the only object of a watched kind. -/
def pathOf? (kind : String) : Option String :=
  (types.find? fun t => t.kind == kind).map fun t => Api.collection t none ++ "/" ++ clusterName

namespace World

/-- Writes objects one after another. -/
def put (w : World) (objects : List (String × Json)) : World :=
  -- An object of a kind that has no path is left out.
  { w with server := objects.foldl (fun s (kind, object) =>
      match pathOf? kind with
      | some path => s.store path object
      | none => s) w.server }

/-- Removes objects one after another. -/
def delete (w : World) (kinds : List String) : World :=
  -- An object that is not there is not removed, so the version stays.
  { w with server := kinds.foldl (fun s kind =>
      match pathOf? kind with
      | some path => if (s.objects.lookup path).isSome then s.remove path else s
      | none => s) w.server }

/-- The storage as the server has it, if it is one. -/
def storage? (w : World) : Option Storage := do
  -- An object that cannot be read as a storage is none.
  let object ← w.server.objects.lookup (← pathOf? Storage.type.kind)
  (Json.decode Storage.read object.compact).toOption

/-- Answers a request. -/
def answer (request : Request) : StateM World Reply := do
  -- A request is kept whether it is refused or answered.
  modify fun w => { w with requests := w.requests ++ [(w.time, request)] }
  let w ← get
  if w.refusesStatus && request.method == .patch then
    return Api.Server.refusal 500 "InternalError" "status rejected"
  let (reply, server) := w.server.answer request
  set { w with server }
  return reply

/-- Carries an exchange out. -/
def exchange {α : Type} (e : Exchange α) : StateM World α :=
  e.run answer

/-- Answers the calls of a sync. -/
def starterCall : (q : Starter.Call) → StateM World q.Answer
  -- Only the readers go to the server, and announcements are let go.
  | .acquire => return (← get).starter
  | .managementState => exchange Api.managementState
  | .infrastructure name => exchange (Api.infrastructure name)
  | .featureGate name => exchange (Api.featureGate name)
  | .release starter starts => modify fun w =>
    { w with starter, starts := w.starts ++
        starts.map fun start => (w.time, start.descriptor.conditionPrefix) }
  | .announce _ _ => return ()

/-- Answers the calls of a report. -/
def reportCall : (q : Degraded.Call) → StateM World q.Answer
  -- The clock is that of the world, which stands still during a report.
  | .now => return (← get).now
  | .write name conditions => exchange (Api.patchConditions name conditions)

/-- Answers the calls of a reconciliation. -/
def call : (q : Starter.Call ⊕ Degraded.Call) →
    -- Both kinds of call are answered from one and the same world.
    StateM World (Sum.elim Starter.Call.Answer Degraded.Call.Answer q)
  | .inl q => starterCall q
  | .inr q => reportCall q

/-- Reconciles at a time, and tells the outcome and whether the server has been written to. -/
def reconcile [Decode.Wording] (resync time : Nat) :
    StateM World (Option (Except Failure Nat) × Bool) := do
  -- Without a storage nothing is done, and there is no outcome.
  modify fun w => { w with time }
  let before ← get
  match before.storage? with
  | none => return (none, false)
  | some storage =>
    let outcome ← (Starter.reconcile resync storage).run call
    return (some outcome, (← get).server.version != before.server.version)

/-- Makes a change, and tells whether the operator has to look at the cluster. It need not when its own
object has been removed. -/
def change (c : Change) : StateM World Bool := do
  -- The storage is removed last, as its removal need not be followed by a look at the cluster.
  modify fun w => { w with
    time := c.time, now := c.now, refusesStatus := c.refusesStatus.getD w.refusesStatus }
  let before := (← get).server.version
  modify fun w => w.put c.puts
  modify fun w => w.delete (c.deletes.filter (· != Storage.type.kind))
  let after := (← get).server.version
  modify fun w => w.delete (c.deletes.filter (· == Storage.type.kind))
  return before != after

/-- The most reconciliations before a time. -/
def fuelUntil (limit : Nat) : Nat :=
  2 * limit + 2

/-- Lives through changes in the order of their times, and then on until a time. -/
def run [Decode.Wording] (resync limit : Nat) : Agenda → List Change → StateM World Unit
  -- What is due before a change is done before it.
  | agenda, [] => do
    let _ ← Agenda.run (reconcile resync) limit (fuelUntil limit) agenda
  | agenda, c :: rest => do
    let agenda ← Agenda.run (reconcile resync) c.time (fuelUntil c.time) agenda
    let triggered ← change c
    run resync limit (if triggered then agenda.noLaterThan c.time else agenda) rest

/-- The world of an operator that begins with objects in place. -/
def new (starter : Starter) (objects : List (String × Json)) (refusesStatus : Bool)
    (now : Time.Timestamp) : World :=
  -- The objects are put in one after another, as later changes put theirs.
  put ⟨starter, Api.Server.empty, refusesStatus, 0, now, [], []⟩ objects

/-- What is due first: a look at the cluster, unless there is nothing in it. -/
def firstAgenda (w : World) : Agenda :=
  if w.server.objects.isEmpty then none else some 0

end World

end CsiOperator.Watch
