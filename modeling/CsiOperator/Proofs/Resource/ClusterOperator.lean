import CsiOperator.Api.Server
import CsiOperator.Proofs.Resource.Metadata
import CsiOperator.Proofs.Resource.RelatedObject
import CsiOperator.Resource.ClusterOperator

/-! What the operator reads of its record is what the record shows. -/

namespace CsiOperator

open Api (Server)
open Decode
open Json (Tree)

/-- The metadata and the observed state of an object are read from their own fields. -/
theorem ObjectDraft.stateful_hold {σ τ : Type} (readSpec : Tree → Read σ)
    (readStatus : Tree → Read τ) :
    Holds (stateful readSpec readStatus) "metadata" ObjectDraft.metadata (given Metadata.read) ∧
      Holds (stateful readSpec readStatus) "status" ObjectDraft.status
        (given (nullable readStatus)) := by
  -- No two fields set the same part, so each of them holds what it reads.
  refine ⟨⟨?_, ?_, ?_⟩, ⟨?_, ?_, ?_⟩⟩
  all_goals simp [stateful, stateless, given]

namespace ClusterOperator

/-- The references that a list stands for; without a list there are none. -/
def listed? : Option Json → Option (List RelatedObject)
  -- Null and a missing list are both no references.
  | none | some .null => some []
  | some (.array items) => items.mapM RelatedObject.ofJson?
  | some _ => none

/-- The references that a record shows. -/
def shown? (json : Json) : Option (List RelatedObject) :=
  -- Null and a missing state are both no references.
  match json.get? "status" with
  | none | some .null => some []
  | some (.object parts) => listed? (parts.lookup "relatedObjects")
  | some _ => none

/-- What is read of an observed state is what it lists. -/
theorem readStatus_eq {node : Tree} {parts : List (String × Json)}
    {objects meant : List RelatedObject} (shows : node.readAny = .ok (.object parts))
    (reads : readStatus node = .ok objects)
    (means : listed? (parts.lookup "relatedObjects") = some meant) : objects = meant := by
  -- The state has one field, and both readings of it are those of its last entry.
  simp only [readStatus, Failure.bind_ok_iff, Failure.pure_ok_iff] at reads
  obtain ⟨d, taken, rfl⟩ := reads
  have read : ReadFrom (given (list RelatedObject.read)) (parts.lookup "relatedObjects") none d :=
    record_readFrom (.only ..) shows taken
  cases found : parts.lookup "relatedObjects" with
  | none =>
    rw [found] at read means
    obtain rfl : d = none := read
    simpa [listed?] using means
  | some json =>
    rw [found] at read means
    obtain ⟨node, shows, reads⟩ := read
    cases json with
    | array items =>
      obtain ⟨objects, found, rfl⟩ := (given_ok_iff ..).mp reads
      exact RelatedObject.list_read_eq shows found means
    | null =>
      -- Null is no list, so that nothing has been read.
      obtain rfl := shape_of_readAny shows
      obtain ⟨_, found, -⟩ := (given_ok_iff ..).mp reads
      cases found
    | _ => simp [listed?] at means

/-- The version of a record is read from its metadata. -/
theorem version_eq {node : Tree} {parts : List (String × Json)} {metadata : Metadata}
    {version : String} (shows : node.readAny = .ok (.object parts))
    (reads : Metadata.read node = .ok metadata)
    (versioned : RelatedObject.textAt "resourceVersion" (.object parts) = some version) :
    metadata.resourceVersion = some version := by
  -- The version that metadata shows is read by its field, as any of its texts.
  have read := latest_readFrom Metadata.texts_hold.2.2.2 shows reads
  obtain ⟨json, shown, isText⟩ := Option.bind_eq_some_iff.mp versioned
  rw [show parts.lookup "resourceVersion" = some json from shown] at read
  obtain ⟨node, shows, reads⟩ := read
  -- A text is not null, so that it is read as a text.
  cases json with
  | text s =>
    obtain rfl : s = version := by simpa [Json.text?] using isText
    obtain rfl := shape_of_readAny shows
    exact (Except.ok.inj reads).symm
  | _ => simp [Json.text?] at isText

/-- What is read of a record is what it shows. -/
theorem read_eq {node : Tree} {json : Json} {operator : ClusterOperator} {version : String}
    {objects : List RelatedObject} (shows : node.readAny = .ok json)
    (reads : read node = .ok operator) (versioned : Server.versionOf json = some version)
    (listed : shown? json = some objects) :
    operator.metadata.resourceVersion = some version ∧ operator.status.getD [] = objects := by
  -- Only an object has a version, and only in its metadata.
  simp only [Server.versionOf, Option.bind_eq_bind, Option.bind_eq_some_iff] at versioned
  obtain ⟨identity, hasIdentity, shownVersion, hasVersion, isText⟩ := versioned
  obtain ⟨parts, rfl, hasMetadata⟩ := Json.object_of_get? hasIdentity
  obtain ⟨fields, rfl, hasField⟩ := Json.object_of_get? hasVersion
  simp only [read, Failure.bind_ok_iff, Failure.pure_ok_iff, present_ok_iff] at reads
  obtain ⟨d, taken, metadata, held, rfl⟩ := reads
  obtain ⟨byMetadata, byStatus⟩ :=
    ObjectDraft.stateful_hold (Decode.record (ν := Tree) [] ()) readStatus
  constructor
  · have read := record_readFrom byMetadata shows taken
    rw [hasMetadata, held] at read
    obtain ⟨node, shows, reads⟩ := read
    obtain ⟨_, reads, same⟩ := (given_ok_iff ..).mp reads
    obtain rfl := Option.some.inj same
    exact version_eq shows reads (Option.bind_eq_some_iff.mpr ⟨_, hasVersion, isText⟩)
  · have read := record_readFrom byStatus shows taken
    simp only [shown?, Json.get?] at listed
    -- An observed state is absent, null or an object.
    split at listed
    · rename_i absent
      rw [absent] at read
      simpa [show d.status = none from read] using listed
    · rename_i null
      rw [null] at read
      obtain ⟨node, shows, reads⟩ := read
      obtain rfl := shape_of_readAny shows
      obtain ⟨_, found, same⟩ := (given_ok_iff ..).mp reads
      obtain rfl := Except.ok.inj found
      simpa [same] using listed
    · rename_i state present
      rw [present] at read
      obtain ⟨node, shows, reads⟩ := read
      obtain ⟨entries, _, rfl, -⟩ := shape_of_readAny shows
      obtain ⟨_, found, same⟩ := (given_ok_iff ..).mp reads
      rw [nullable_eq] at found
      obtain ⟨objects, status, rfl⟩ := (given_ok_iff ..).mp found
      simpa [same] using readStatus_eq shows status listed
    · cases listed

end ClusterOperator

end CsiOperator
