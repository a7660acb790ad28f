import CsiOperator.Proofs.Api.Traffic
import CsiOperator.Proofs.Publication.Publish
import CsiOperator.Proofs.Resource.ClusterOperator

/-! A server that has the record of the operator, and what it does with requests. -/

namespace CsiOperator.Publication

open Api (Changes Listing Outcome Reply Request Server Store Stored)
open Decode (decode_ok_iff)

/-- The record as a server has it. -/
abbrev Record := Stored (List RelatedObject)

/-- The references as they stand in the record. -/
def listing : Listing ClusterOperator (List RelatedObject) where
  -- References are compared by what they stand for, which is all that the operator reads.
  path := recordPath
  field := "relatedObjects"
  meaning items := items.mapM RelatedObject.ofJson?
  found := found

/-- A reply shows the record: its version and its references. -/
def Shows (r : Record) (reply : Reply) : Prop :=
  -- The body shows both, whatever else may be in it.
  ∃ status body, reply = .answered status body ∧ Reply.isRefusal status = false ∧
    (Json.parse body).toOption.bind Server.versionOf = some r.version ∧
    (Json.parse body).toOption.bind ClusterOperator.shown? = some r.content

/-- What a server may do with a request, what it replies, and what it has afterwards. -/
inductive Serves (s : Store (List RelatedObject)) (request : Request) (reply : Reply) :
    Outcome → Store (List RelatedObject) → Prop
  /-- It shows the record. -/
  | shown {r : Record} : request.method = .get → request.target.path = recordPath →
    s.object = some r → Shows r reply → Serves s request reply .shown s
  /-- It does something with a change. -/
  | change {outcome : Outcome} {t : Store (List RelatedObject)} :
    Changes listing s request reply outcome t → Serves s request reply outcome t

/-- The change names the version that it is meant for. -/
theorem versionOf_change (version : Option String) (objects : List RelatedObject) :
    Server.versionOf (Api.relatedObjectsChange version objects) = version := by
  cases version <;> rfl

/-- The change replaces all references. -/
theorem replaced_change (current : List RelatedObject) (version : Option String)
    (objects : List RelatedObject) :
    listing.replaced current (Api.relatedObjectsChange version objects) = some objects := by
  -- Every reference keeps its meaning, whether or not the change names a version.
  have items : (objects.map RelatedObject.toJson).mapM RelatedObject.ofJson? = some objects := by
    induction objects with
    | nil => rfl
    | cons o rest ih => simp [RelatedObject.ofJson?_toJson, ih]
  cases version <;> exact items

/-- The request for a write asks for the change. -/
theorem writeRequest_changes (version : Option String) (objects : List RelatedObject) :
    (writeRequest version objects).Changes recordPath (Api.relatedObjectsChange version objects) :=
  ⟨rfl, rfl, rfl, rfl⟩

/-- The operator reads of a record what a reply shows of it. -/
theorem Shows.found_eq {r : Record} {reply : Reply} (shows : Shows r reply)
    {operator : ClusterOperator} (brought : found reply = .ok operator) :
    operator.metadata.resourceVersion = some r.version ∧ operator.status.getD [] = r.content := by
  -- The record that a reply shows has one reading, which is the one that the operator makes.
  obtain ⟨status, body, rfl, accepts, version, content⟩ := shows
  obtain ⟨json, parsed, version⟩ := Option.bind_eq_some_iff.mp version
  rw [parsed, Option.bind_some] at content
  -- The same text is read as a record and as a value of any shape.
  have shown : Json.parse body = .ok json := (Failure.toOption_eq_some_iff ..).mp parsed
  have brought : Json.decode ClusterOperator.read body = .ok operator := by
    simp only [found, Reply.object, accepts, Bool.false_eq_true, if_false] at brought
    split at brought
    · rename_i read
      rw [read, Except.ok.inj brought]
    · cases brought
  exact ClusterOperator.read_eq ((decode_ok_iff ..).mp shown).1 ((decode_ok_iff ..).mp brought).1
    version content

/-- A publication goes on with what is shown, if it can read that. -/
theorem Shows.reading_eq {r : Record} {reply : Reply} (shows : Shows r reply)
    {operator : ClusterOperator} (brought : found reply = .ok operator)
    (ours : List RelatedObject) :
    reading ours reply = match merge r.content ours with
      | none => .done (.ok false)
      | some merged =>
        .ask (writeRequest (some r.version) merged) fun reply => .done (settled reply) := by
  -- Nothing but the version and the references of what has been read decides about the write.
  obtain ⟨version, content⟩ := shows.found_eq brought
  cases merges : merge r.content ours with
  | none => simp only [reading, brought, writing, content, merges]
  | some merged => simp only [reading, brought, writing, version, content, merges]

/-- A refusal because of a conflict ends a publication without a failure. -/
theorem settled_conflict {reply : Reply} (conflicts : reply.Conflicts) :
    settled reply = .ok false := by
  -- The code of a refusal is all that is looked at.
  obtain ⟨body, rfl, code⟩ := conflicts
  have refused : found (.answered 409 body) = .error (Reply.refusal 409 body) := rfl
  simp [settled, refused, Failure.isConflict, code]

/-- A write for the version of the record may be accepted, whatever becomes of the reply. -/
theorem Serves.current {s : Store (List RelatedObject)} {r : Record} (present : s.object = some r)
    {version : String} (fresh : version ∉ s.used) (objects : List RelatedObject) (reply : Reply) :
    Serves s (writeRequest (some r.version) objects) reply .accepted (s.put version objects) := by
  -- The reply is left open: the store has changed before it is on its way.
  refine .change (.accepted (writeRequest_changes ..) present (fun v named => ?_)
    (replaced_change ..) fresh)
  rw [versionOf_change, Option.some.injEq] at named
  exact named.symm

/-- A write for another version may be refused because of a conflict. -/
theorem Serves.stale {s : Store (List RelatedObject)} {r : Record} (present : s.object = some r)
    {version : String} (other : version ≠ r.version) (objects : List RelatedObject)
    {reply : Reply} (conflicts : reply.Conflicts) :
    Serves s (writeRequest (some version) objects) reply .conflict s :=
  .change (.conflict (writeRequest_changes ..) present (versionOf_change ..) other conflicts)

end CsiOperator.Publication
