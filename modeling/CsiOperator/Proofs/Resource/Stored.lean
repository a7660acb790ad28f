import CsiOperator.Api.Server
import CsiOperator.Api.Status
import CsiOperator.Proofs.Decode.Changed
import CsiOperator.Proofs.Json.Merge
import CsiOperator.Proofs.Resource.ClusterOperator
import CsiOperator.Proofs.Resource.Object

/-! A storage whose conditions have been replaced at the server is read with the new ones. -/

namespace CsiOperator

open Api (Server)
open Decode
open Failure (bind_ok_iff pure_ok_iff)
open Json (Distinct Tree merge setEntry)

namespace Metadata

/-- Whether a field of metadata can be read does not depend on the others. -/
theorem fields_steady : ∀ f ∈ fields (ν := Tree), Steady f.2 := by
  -- Each field puts what it has read into its own part, whatever the draft is.
  simp only [fields, List.forall_mem_cons, List.not_mem_nil, false_imp_iff, implies_true,
    and_true]
  and_intros
  all_goals exact .of_put _ _

/-- Only an object is read as metadata. -/
theorem object_of_read {json : Json} {depth : Nat} {m : Metadata}
    (reads : read (json.tree (depth + 1)) = .ok m) : ∃ entries, json = .object entries := by
  -- Reading metadata asks for entries first.
  obtain ⟨parts, isMap, -⟩ := (bind_ok_iff ..).mp reads
  -- No other value has entries to be read; a number may even fail to be read back.
  cases json with
  | object entries => exact ⟨entries, rfl⟩
  | null | bool | text | array => cases isMap
  | number n =>
    rw [Json.tree] at isMap
    cases Json.reread n with
    | none => cases isMap
    | some n => cases n <;> cases isMap

/-- Under another version, metadata is read with the same name. -/
theorem read_versioned {entries : List (String × Json)} (distinct : Distinct (.object entries))
    {depth : Nat} {m : Metadata} (reads : read ((Json.object entries).tree (depth + 1)) = .ok m)
    (version : String) : ∃ m',
      read ((Json.object (setEntry "resourceVersion" (.text version) entries)).tree (depth + 1)) =
        .ok m' ∧ m'.anyName = m.anyName := by
  -- Only one entry differs, and the fields are read without regard to each other.
  have changed := distinct.setEntry "resourceVersion" (.text version)
  have filled := (fields_independent.latest_tree_ok_iff entries depth empty m).mp reads
  -- Everything but the version is given as before, and the version is a text.
  have same (name : String) (other : name ≠ "resourceVersion") :
      (shown (setEntry "resourceVersion" (.text version) entries) name).map (Json.tree depth) =
        (shown entries name).map (Json.tree depth) := by
    rw [changed.shown_eq, distinct.shown_eq, Json.lookup_setEntry, if_neg other]
  have versioned : ∀ node, (shown (setEntry "resourceVersion" (.text version) entries)
      "resourceVersion").map (Json.tree depth) = some node →
        ∃ value, nullable text node = .ok value := by
    intro node there
    rw [changed.shown_eq, Json.lookup_setEntry, if_pos rfl] at there
    obtain rfl : (Json.text version).tree depth = node := Option.some.inj there
    exact ⟨some version, nullable_tree (by simp) (text_tree version depth)⟩
  have readable := (readable_of_fill fields_steady filled).change same texts_hold.2.2.2
    fields_independent.names versioned
  obtain ⟨m', refilled⟩ := readable.fill empty
  -- The names stand in fields that show the same as before.
  refine ⟨m', (fields_independent.latest_tree_ok_iff _ depth empty m').mpr refilled, ?_⟩
  have byName := fill_same texts_hold.1 fields_independent.names (same "name" (by decide)) refilled
    filled
  have byStart := fill_same texts_hold.2.1 fields_independent.names
    (same "generateName" (by decide)) refilled filled
  rw [anyName, anyName, byName, byStart]

end Metadata

namespace ObjectDraft

variable {σ τ : Type} {readSpec : Tree → Read σ} {readStatus : Tree → Read τ}

/-- What the parts of an object with an observed state are read from. -/
structure ReadsFrom (readSpec : Tree → Read σ) (readStatus : Tree → Read τ)
    (entries : List (String × Json)) (depth : Nat) (metadata : Metadata) (spec : σ)
    (status : Option (Option τ)) : Prop where
  /-- The metadata. -/
  metadata : ∃ json, shown entries "metadata" = some json ∧
    Metadata.read (json.tree depth) = .ok metadata
  /-- The desired state. -/
  spec : ∃ json, shown entries "spec" = some json ∧ readSpec (json.tree depth) = .ok spec
  /-- The observed state, which may be left out. -/
  status : match shown entries "status" with
    | none => status = none
    | some json => ∃ value, nullable readStatus (json.tree depth) = .ok value ∧ status = some value

/-- The parts of an object are read from what it shows under their names. -/
theorem stateful_object_iff (entries : List (String × Json)) (depth : Nat)
    (d : ObjectDraft σ τ) :
    record (stateful readSpec readStatus) empty ((Json.object entries).tree (depth + 1)) = .ok d ↔
      ∃ metadata spec status, d = ⟨some metadata, some spec, status⟩ ∧
        ReadsFrom readSpec readStatus entries depth metadata spec status := by
  -- Three fields are asked about, and each of them has its own part of the draft.
  rw [(stateful_lawful readSpec readStatus).record_tree_ok_iff entries depth
    (by simp [stateful, stateless, empty])]
  simp only [stateful, stateless, List.cons_append, List.nil_append, List.forall_mem_cons,
    List.not_mem_nil, false_imp_iff, implies_true, and_true, true_imp_iff, reduceCtorEq, byName,
    List.map_cons, List.map_nil, fill]
  -- The metadata and the desired state must be shown, and the observed one may be left out.
  constructor
  · rintro ⟨⟨hasMetadata, hasSpec⟩, filled⟩
    obtain ⟨metadataJson, isMetadata⟩ := Option.isSome_iff_exists.mp hasMetadata
    obtain ⟨specJson, isSpec⟩ := Option.isSome_iff_exists.mp hasSpec
    simp only [isMetadata, isSpec, Option.map_some, bind_ok_iff, pure_ok_iff] at filled
    obtain ⟨_, ⟨metadata, readMetadata, rfl⟩, _, ⟨spec, reads, rfl⟩, filled⟩ := filled
    refine ⟨metadata, spec, d.status, ?_, ⟨_, isMetadata, readMetadata⟩, ⟨_, isSpec, reads⟩, ?_⟩
    all_goals
      -- A state that is left out leaves the draft alone, and one that is shown is put into it.
      cases isStatus : shown entries "status" with
      | none =>
        simp only [isStatus, Option.map_none, Except.ok.injEq] at filled
        exact filled ▸ rfl
      | some json =>
        simp only [isStatus, Option.map_some, bind_ok_iff, pure_ok_iff, Except.ok.injEq] at filled
        obtain ⟨_, ⟨value, reads, rfl⟩, rfl⟩ := filled
        first
        | rfl
        | exact ⟨value, reads, rfl⟩
  · rintro ⟨metadata, spec, status, rfl, ⟨metadataJson, isMetadata, readMetadata⟩,
      ⟨specJson, isSpec, reads⟩, rest⟩
    refine ⟨⟨by rw [isMetadata]; rfl, by rw [isSpec]; rfl⟩, ?_⟩
    simp only [isMetadata, isSpec, Option.map_some, bind_ok_iff, pure_ok_iff]
    refine ⟨_, ⟨metadata, readMetadata, rfl⟩, _, ⟨spec, reads, rfl⟩, ?_⟩
    cases isStatus : shown entries "status" with
    | none =>
      obtain rfl : status = none := by simpa [isStatus] using rest
      rfl
    | some json =>
      obtain ⟨value, reads, rfl⟩ : ∃ value, nullable readStatus (json.tree depth) = .ok value ∧
        status = some value := by simpa [isStatus] using rest
      simp only [Option.map_some, bind_ok_iff, pure_ok_iff]
      exact ⟨_, ⟨value, reads, rfl⟩, rfl⟩

end ObjectDraft

/-- A written condition has no repeated names. -/
theorem Condition.toJson_distinct (c : Condition) : c.toJson.Distinct := by
  -- Only the texts that may be left out have to be looked at; the others are there.
  have texts (s : String) : ∀ json ∈ unlessEmpty s, json.Distinct := by
    intro json held
    rw [unlessEmpty] at held
    split at held
    · cases held
    · cases held
      exact .text s
  -- Every field of a written condition is a text, if it is there.
  refine Json.distinct_record (by simp) ?_
  simp only [List.forall_mem_cons, List.not_mem_nil, false_imp_iff, implies_true, and_true]
  refine ⟨?_, ?_, texts c.reason, texts c.message, ?_⟩
  all_goals
    rintro json ⟨⟩
    exact .text _

namespace Storage

/-- The change that puts conditions in the place of those of a storage. -/
def replacement (conditions : List Condition) : Json :=
  .object [("status", .object [("conditions", .array (conditions.map Condition.toJson))])]

/-- A storage as it is stored once its conditions have been replaced. -/
structure Replaced (storage : Storage) (conditions : List Condition) (object : Json) : Prop where
  /-- It is still an object without repeated names. -/
  distinct : ∃ entries, object = .object entries ∧ object.Distinct
  /-- It is read as a storage with the new conditions, and is otherwise the same to the operator. -/
  reads : ∃ storage', Storage.read (object.tree Json.maxDepth) = .ok storage' ∧
    storage'.conditions = conditions ∧ storage'.managementState = storage.managementState ∧
    storage'.metadata.anyName = storage.metadata.anyName

/-- An observed state is read as the conditions that have been put into it. -/
theorem readStatus_setEntry {entries : List (String × Json)} (distinct : Distinct (.object entries))
    {conditions : List Condition} (valid : ∀ c ∈ conditions, c.lastTransitionTime.Valid)
    (depth : Nat) :
    let status := Json.object
      (setEntry "conditions" (.array (conditions.map Condition.toJson)) entries)
    status.Distinct ∧ readStatus (status.tree (depth + 3)) = .ok conditions := by
  -- What is written is distinct since each condition is.
  have written : Distinct (.array (conditions.map Condition.toJson)) := by
    refine .array fun item member => ?_
    obtain ⟨c, -, rfl⟩ := List.mem_map.mp member
    exact c.toJson_distinct
  -- The state has one entry of the name afterwards, which is the new list.
  have changed := distinct.setEntry "conditions" written
  have there : shown (setEntry "conditions" (.array (conditions.map Condition.toJson)) entries)
      "conditions" = some (.array (conditions.map Condition.toJson)) := by
    rw [changed.shown_eq, Json.lookup_setEntry, if_pos rfl]
  have reads : list Condition.read
      ((Json.array (conditions.map Condition.toJson)).tree (depth + 2)) = .ok conditions :=
    list_tree fun c member => Condition.read_toJson (valid c member) depth
  refine ⟨changed, (bind_ok_iff ..).mpr ⟨some conditions, ?_, rfl⟩⟩
  exact single_shown "conditions" there reads

/-- What is stored in the place of a storage whose conditions are replaced. -/
theorem stamped_eq {entries names : List (String × Json)}
    (found : entries.lookup "metadata" = some (.object names)) (conditions : List Condition)
    (version : Nat) :
    Server.stamped version (merge (some (.object entries)) (replacement conditions)) =
      .object (setEntry "metadata"
        (.object (setEntry "resourceVersion" (.text (Text.decimal version)) names))
        (setEntry "status" (.object (setEntry "conditions"
          (.array (conditions.map Condition.toJson)) (Json.base (entries.lookup "status"))))
          entries)) := by
  -- Merging sets the conditions, and stamping sets the version in the metadata.
  have status : merge (some (.object entries)) (replacement conditions) =
      .object (setEntry "status" (.object (setEntry "conditions"
        (.array (conditions.map Condition.toJson)) (Json.base (entries.lookup "status"))))
        entries) := by
    rw [replacement, Json.merge_single _ _ (by simp), Json.merge_single _ _ (by simp)]
    rfl
  -- The metadata has not changed by then.
  have still : (setEntry "status" (.object (setEntry "conditions"
      (.array (conditions.map Condition.toJson)) (Json.base (entries.lookup "status"))))
      entries).lookup "metadata" = some (.object names) := by
    rw [Json.lookup_setEntry, if_neg (by decide), found]
  rw [Server.stamped, status, Json.merge_single _ _ (by simp), Json.merge_single _ _ (by simp)]
  show Json.object (setEntry "metadata" (.object (setEntry "resourceVersion" _
    (Json.base (List.lookup "metadata" (setEntry "status" _ entries))))) _) = _
  rw [still]
  rfl

/-- Once conditions have been replaced at the server they are those that are read. -/
theorem replaced {entries : List (String × Json)} (distinct : Distinct (.object entries))
    {storage : Storage} (reads : read ((Json.object entries).tree Json.maxDepth) = .ok storage)
    {conditions : List Condition} (valid : ∀ c ∈ conditions, c.lastTransitionTime.Valid)
    (version : Nat) :
    storage.Replaced conditions
      (Server.stamped version (merge (some (.object entries)) (replacement conditions))) := by
  -- A storage is read from its parts, of which only the observed state and the version change.
  simp only [read, bind_ok_iff, pure_ok_iff, present_ok_iff] at reads
  obtain ⟨d, taken, _, isMetadata, _, isSpec, rfl⟩ := reads
  obtain ⟨metadata, state, status, rfl, ⟨metadataJson, metadataShown, readMetadata⟩,
    ⟨specJson, specShown, readSpec⟩, -⟩ := (ObjectDraft.stateful_object_iff entries 126 d).mp taken
  obtain rfl := Option.some.inj isMetadata
  obtain rfl := Option.some.inj isSpec
  -- An object without repeated names shows just what is found in it.
  rw [distinct.shown_eq] at metadataShown specShown
  obtain ⟨names, rfl⟩ := Metadata.object_of_read readMetadata
  -- The observed state is replaced first, and then the version.
  obtain ⟨statusDistinct, readStatus⟩ := readStatus_setEntry
    (Distinct.base fun _ found => distinct.of_lookup found :
      Distinct (.object (Json.base (entries.lookup "status")))) valid 123
  obtain ⟨metadata', readVersioned, sameName⟩ := Metadata.read_versioned
    (distinct.of_lookup metadataShown) readMetadata (Text.decimal version)
  have versioned := (distinct.of_lookup metadataShown).setEntry "resourceVersion"
    (.text (Text.decimal version))
  have changed := (distinct.setEntry "status" statusDistinct).setEntry "metadata" versioned
  -- The new object differs under two names, and every part is read from what stands under its own.
  rw [stamped_eq metadataShown]
  refine ⟨⟨_, rfl, changed⟩, ⟨metadata', state, some conditions⟩, ?_, rfl, rfl, sameName⟩
  have parts := (ObjectDraft.stateful_object_iff _ 126 ⟨some metadata', some state,
    some (some conditions)⟩).mpr ⟨metadata', state, some (some conditions), rfl,
      ⟨_, by rw [changed.shown_eq, Json.lookup_setEntry, if_pos rfl], readVersioned⟩,
      ⟨specJson, by
        rw [changed.shown_eq, Json.lookup_setEntry, if_neg (by decide), Json.lookup_setEntry,
          if_neg (by decide), specShown], readSpec⟩, by
      rw [changed.shown_eq, Json.lookup_setEntry, if_neg (by decide), Json.lookup_setEntry,
        if_pos rfl]
      exact ⟨some conditions, nullable_tree (by simp) readStatus, rfl⟩⟩
  exact (bind_ok_iff ..).mpr ⟨_, parts, rfl⟩

end Storage

end CsiOperator
