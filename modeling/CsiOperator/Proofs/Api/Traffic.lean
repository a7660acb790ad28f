import CsiOperator.Api.Server
import CsiOperator.Proofs.Api.Store
import Mathlib.Logic.Function.Basic

/-! Computations that overlap in front of one object of a server. -/

namespace CsiOperator.Api

/-- A list in the observed state of one object: where it is, and what it means. -/
structure Listing (κ α : Type) where
  /-- The path of the object. -/
  path : String
  /-- The name of the list. -/
  field : String
  /-- What its items stand for. -/
  meaning : List Json → Option α
  /-- The object in a reply. -/
  found : Reply → Except ApiFailure κ

/-- What a list stands for after a change has been merged into the object. -/
def Listing.replaced {κ α : Type} (listing : Listing κ α) (current : α) (change : Json) :
    Option α :=
  -- A change without the field leaves the content, and one with something else in it has none.
  match (change.get? "status").bind (Json.get? listing.field) with
  | none => some current
  | some (.array items) => listing.meaning items
  | some _ => none

/-- A request asks for a change to the observed state of the object at a path. -/
structure Request.Changes (request : Request) (path : String) (change : Json) : Prop where
  /-- It is a change. -/
  method : request.method = .patch
  /-- It addresses the observed state. -/
  target : request.target.path = path ++ "/status"
  /-- The change is to be merged in. -/
  contentType : request.contentType = some "application/merge-patch+json"
  /-- It brings the change. -/
  body : request.body = some change

/-- A reply refuses a change because of a conflict. -/
def Reply.Conflicts (reply : Reply) : Prop :=
  ∃ body, reply = .answered 409 body ∧ (Reply.refusal 409 body).code? = some 409

/-- What has become of a request. -/
inductive Outcome where
  /-- The object has been shown. -/
  | shown
  /-- A change has been made. -/
  | accepted
  /-- A change has been refused because the object has changed. -/
  | conflict
  /-- Nothing. -/
  | failed
  deriving DecidableEq, Repr

/-- What a server may do with a change, what it replies, and what it has afterwards. -/
inductive Changes {κ α : Type} (listing : Listing κ α) (s : Store α) (request : Request)
    (reply : Reply) : Outcome → Store α → Prop
  /-- It merges the change in, unless that names another version; the reply may get lost. -/
  | accepted {o : Stored α} {change : Json} {content : α} {version : String} :
    request.Changes listing.path change → s.object = some o →
    (∀ v, Server.versionOf change = some v → v = o.version) →
    listing.replaced o.content change = some content → version ∉ s.used →
    Changes listing s request reply .accepted (s.put version content)
  /-- It refuses a change that names another version. -/
  | conflict {o : Stored α} {change : Json} {v : String} :
    request.Changes listing.path change → s.object = some o →
    Server.versionOf change = some v → v ≠ o.version → reply.Conflicts →
    Changes listing s request reply .conflict s
  /-- Its reply brings nothing, as when there is no object. -/
  | failed {cause : ApiFailure} : listing.found reply = .error cause →
    Changes listing s request reply .failed s

/-- Any number of actions, one after another. -/
inductive Run {σ ι : Type} (step : σ → ι → σ → Prop) (first : σ) : List ι → σ → Prop
  /-- None. -/
  | nil : Run step first [] first
  /-- One more. -/
  | snoc {actions : List ι} {action : ι} {mid last : σ} : Run step first actions mid →
    step mid action last → Run step first (actions ++ [action]) last

/-- What every action keeps is true after any number of them. -/
theorem Run.keeps {σ ι : Type} {step : σ → ι → σ → Prop} {holds : σ → Prop}
    (kept : ∀ {w action w'}, holds w → step w action w' → holds w') {first last : σ}
    {actions : List ι} (begins : holds first) (run : Run step first actions last) : holds last := by
  -- Induction on the actions from the last one on, as a run grows at its end.
  induction run with
  | nil => exact begins
  | snoc _ step ih => exact kept ih step

/-- An object at a server, and the computations in front of it, which are told apart by numbers. -/
structure Traffic (α β : Type) where
  /-- The object. -/
  store : Store α
  /-- The computations that have begun. -/
  calls : Nat → Option β

namespace Traffic

variable {α β : Type}

/-- Nothing has begun yet. -/
def start (store : Store α) : Traffic α β :=
  ⟨store, fun _ => none⟩

/-- A computation is suspended with something left to do. -/
def suspend (w : Traffic α β) (i : Nat) (call : β) : Traffic α β :=
  { w with calls := Function.update w.calls i (some call) }

/-- The computation that has just been suspended is there, and the others are as they were. -/
theorem of_suspend {w : Traffic α β} {i j : Nat} {call other : β}
    (pending : (w.suspend i call).calls j = some other) :
    j = i ∧ other = call ∨ j ≠ i ∧ w.calls j = some other := by
  -- Suspending sets one call and nothing else.
  by_cases same : j = i
  · subst same
    exact .inl ⟨rfl, by simpa [suspend, eq_comm] using pending⟩
  · exact .inr ⟨same, by simpa [suspend, same] using pending⟩

/-- Every computation that has begun has a property. -/
def Every (p : β → Prop) (w : Traffic α β) : Prop :=
  ∀ i call, w.calls i = some call → p call

namespace Every

variable {p : β → Prop}

/-- Nothing has begun that could lack it. -/
theorem start (store : Store α) : (Traffic.start store).Every p := by
  -- Nothing is pending at the start.
  intro i call pending
  cases pending

/-- A computation that has it may be suspended. -/
theorem suspend {w : Traffic α β} (every : w.Every p) (i : Nat) {call : β} (has : p call) :
    (w.suspend i call).Every p := by
  -- A pending call is the one that is suspended now, or has been pending before.
  intro j other pending
  obtain ⟨rfl, rfl⟩ | ⟨-, waiting⟩ := of_suspend pending
  · exact has
  · exact every j other waiting

end Every

end Traffic

end CsiOperator.Api
