import CsiOperator.Proofs.Dialogue
import CsiOperator.Publication.Publish
import Mathlib.Data.List.Nodup

/-! A publication is a read and at most one write. -/

namespace CsiOperator.Publication

open Api (Exchange RelatedObjects Reply Request)

/-- What a publication comes to with what comes back for its write. -/
def wrote : Except Failure Unit → Except Failure Bool
  -- A conflict counts as not having written.
  | .ok () => .ok true
  | .error failure => if failure.isConflict then .ok false else .error failure

/-- What a publication does with what it has read. -/
def having (ours : List RelatedObject) :
    Except Failure (Option RelatedObjects) → Dialogue Call Call.Answer (Except Failure Bool)
  -- Without a record, or with nothing missing, no write follows.
  | .error failure => .done (.error failure)
  | .ok none => .done (.ok false)
  | .ok (some current) =>
    match merge current.objects ours with
    | none => .done (.ok false)
    | some merged =>
      .ask (.write current.resourceVersion merged) fun written => .done (wrote written)

/-- A publication looks at the ledger, and reads only if there is anything to publish. -/
theorem publish_eq : publish = .ask .ledger fun ledger =>
    if !ledger.1 then .done (.ok false) else .ask .read (having ledger.2) := by
  -- The answers decide one after another how it goes on.
  refine congrArg (Dialogue.ask Call.ledger) (funext fun (any, ours) => ?_)
  cases any with
  | false => rfl
  | true =>
    refine congrArg (Dialogue.ask Call.read) (funext fun read => ?_)
    rcases read with _ | _ | current
    · rfl
    · rfl
    · rw [having]
      show (match merge current.objects ours with | none => _ | some merged => _) = _
      cases merge current.objects ours with
      | none => rfl
      | some merged =>
        refine congrArg (Dialogue.ask (Call.write _ merged)) (funext fun written => ?_)
        cases written with
        | ok => rfl
        | error failure =>
          show (if failure.isConflict then _ else _) = _
          simp only [wrote]
          split <;> rfl

/-- The path of the record. -/
def recordPath : String :=
  "/apis/config.openshift.io/v1/clusteroperators/storage"

/-- The request that reads the record. -/
def readRequest : Request :=
  ⟨.get, ⟨recordPath, ""⟩, none, none⟩

/-- The request that replaces the references of the record, perhaps only if it has a version. -/
def writeRequest (version : Option String) (objects : List RelatedObject) : Request :=
  -- The change tells the version, so the path does not.
  ⟨.patch, ⟨recordPath ++ "/status", "&fieldManager=cluster-storage-operator"⟩,
    some "application/merge-patch+json", some (Api.relatedObjectsChange version objects)⟩

/-- The record in a reply. -/
def found (reply : Reply) : Except ApiFailure ClusterOperator :=
  reply.object (ClusterOperator.read (ν := Json.Tree))

/-- What a publication comes to with the reply to its write. -/
def settled (reply : Reply) : Except Failure Bool :=
  -- A conflict is told by the code of the refusal.
  match found reply with
  | .ok _ => .ok true
  | .error cause =>
    if (Failure.api cause).isConflict then .ok false else .error (.api cause)

/-- What a publication does after the read that brought a record. -/
def writing (ours : List RelatedObject) (current : ClusterOperator) :
    Exchange (Except Failure Bool) :=
  -- The version goes into the write as it was read.
  match merge (current.status.getD []) ours with
  | none => .done (.ok false)
  | some merged =>
    .ask (writeRequest current.metadata.resourceVersion merged) fun reply => .done (settled reply)

/-- What a publication does with the reply to its read. -/
def reading (ours : List RelatedObject) (reply : Reply) : Exchange (Except Failure Bool) :=
  -- The lack of a record is told by the reason of a refusal, and it is no failure.
  match found reply with
  | .ok current => writing ours current
  | .error (.refused status message reason code) =>
    if reason == Api.notFoundReason then .done (.ok false)
    else .done (.error (.api (.refused status message reason code)))
  | .error cause => .done (.error (.api cause))

/-- Reading the references is one request, whose reply decides. -/
theorem relatedObjects_eq : Api.relatedObjects = .ask readRequest fun reply => .done
    (match found reply with
    | .ok operator => .ok (some ⟨operator.metadata.resourceVersion, operator.status.getD []⟩)
    | .error (.refused status message reason code) =>
      if reason == Api.notFoundReason then .ok none
      else .error (.api (.refused status message reason code))
    | .error cause => .error (.api cause)) := by
  -- Both sides send the same request, so they differ at most in what the reply becomes.
  refine congrArg (Dialogue.ask readRequest) (funext fun reply => ?_)
  change Dialogue.bind (Dialogue.bind (.done (found reply)) _) _ = _
  cases found reply with
  | ok operator => rfl
  | error cause =>
    cases cause with
    | refused status message reason code =>
      by_cases absent : reason == Api.notFoundReason <;> simp only [Dialogue.bind, absent] <;> rfl
    | _ => rfl

/-- Writing the references is one request, whose reply decides. -/
theorem patchRelatedObjects_eq (version : Option String) (objects : List RelatedObject) :
    Api.patchRelatedObjects version objects = .ask (writeRequest version objects) fun reply => .done
      (match found reply with
      | .ok _ => .ok ()
      | .error cause => .error (.api cause)) := by
  -- Both sides send the same request, so they differ at most in what the reply becomes.
  refine congrArg (Dialogue.ask (writeRequest version objects)) (funext fun reply => ?_)
  change Dialogue.bind (.done (found reply)) _ = _
  cases found reply <;> rfl

/-- The references of ours that are missing in a record. -/
def missing (current ours : List RelatedObject) : List RelatedObject :=
  ours.filter fun object => !current.contains object

/-- What is written are the references of the record with the missing ones after them. -/
theorem merge_eq_some {current ours merged : List RelatedObject}
    (merges : merge current ours = some merged) : merged = current ++ missing current ours := by
  -- There is something to write only if something is missing.
  unfold merge at merges
  split at merges
  · cases merges
  · rename_i left
    exact (Option.some.inj merges).symm

/-- Appending what is missing repeats nothing that has not been repeated before. -/
theorem count_append_missing {current ours : List RelatedObject} (distinct : ours.Nodup)
    {o : RelatedObject} (once : current.count o ≤ 1) :
    (current ++ missing current ours).count o ≤ 1 := by
  -- A reference that there is already is not missing, and another one is missing once at most.
  rw [List.count_append]
  by_cases present : o ∈ current
  · -- What is there is not missing.
    have absent : o ∉ missing current ours := by simp [missing, present]
    rw [List.count_eq_zero.mpr absent]
    exact once
  · have fresh := List.count_eq_zero.mpr present
    have new : (missing current ours).Nodup := distinct.sublist List.filter_sublist
    have added := List.nodup_iff_count_le_one.mp new o
    omega

/-- After what is missing has been appended, all of it is there. -/
theorem mem_append_missing {current ours : List RelatedObject} {o : RelatedObject}
    (member : o ∈ ours) : o ∈ current ++ missing current ours := by
  -- A reference of ours is either there or missing.
  by_cases present : o ∈ current
  · exact List.mem_append_left _ present
  · exact List.mem_append_right _ (List.mem_filter.mpr ⟨member, by simpa using present⟩)

/-- A publication of a ledger that has nothing yet asks for nothing. -/
theorem publishThrough_none (ours : List RelatedObject) :
    publishThrough (false, ours) = .done (.ok false) := rfl

/-- Any other publication reads the record, and goes on with what it has read. -/
theorem publishThrough_some (ours : List RelatedObject) :
    publishThrough (true, ours) = .ask readRequest (reading ours) := by
  -- The reading comes first, and what follows depends on its reply alone.
  change Dialogue.bind Api.relatedObjects _ = _
  rw [relatedObjects_eq]
  refine congrArg (Dialogue.ask readRequest) (funext fun reply => ?_)
  simp only [Dialogue.bind, reading]
  cases found reply with
  | ok current =>
    simp only [writing]
    cases merge (current.status.getD []) ours with
    | none => rfl
    | some merged =>
      change Dialogue.bind (Api.patchRelatedObjects current.metadata.resourceVersion merged) _ = _
      rw [patchRelatedObjects_eq]
      refine congrArg (Dialogue.ask _) (funext fun reply => ?_)
      simp only [Dialogue.bind, settled]
      cases found reply with
      | ok written => rfl
      | error cause =>
        by_cases conflict : (Failure.api cause).isConflict <;> simp only [conflict] <;> rfl
  | error cause =>
    cases cause with
    | refused status message reason code =>
      by_cases absent : reason == Api.notFoundReason <;> simp only [absent] <;> rfl
    | _ => rfl

end CsiOperator.Publication
