import CsiOperator.Proofs.Resource.Object

/-! What is decoded and encoded again is decoded as it was, whatever the kind of the object. -/

namespace CsiOperator.Kind

open Decode
open Failure (bind_ok_iff pure_ok_iff)
open Json (Sound Tree)

/-- Every object that is decoded from any text is decoded again from its own encoding, if each of its
doubles is read from its own text. -/
def Rereads (α : Type) [Kind α] : Prop :=
  -- All other parts are read from what they are written as, so only doubles are asked about.
  ∀ (text : String) (object : α), Json.decode Kind.read text = .ok object →
    (∀ x ∈ (Kind.metadata object).reals, Json.parse x.text = .ok (.number (.real x))) →
      Json.decode Kind.read (Kind.toJson object).compact = .ok object

/-- It is enough to look at the tree of what is encoded. -/
theorem rereads_of_tree {α : Type} [Kind α]
    (again : ∀ (node : Tree) (object : α), Sound Json.maxDepth node → Kind.read node = .ok object →
      (∀ x ∈ (Kind.metadata object).reals, Json.reread (.real x) = some (.real x)) →
        Kind.read ((Kind.toJson object).tree Json.maxDepth) = .ok object) : Rereads α := by
  -- A text that decodes has a sound tree, and what is printed has the tree of what is encoded.
  intro text object decodes exact
  obtain ⟨reads, -⟩ := (decode_ok_iff ..).mp decodes
  rw [Json.decode_compact]
  refine again _ object (Json.ofText_sound text) reads fun x real => ?_
  exact (Json.parse_real_iff x).mp (exact x real)

/-- Infrastructures are decoded again as they were. -/
theorem infrastructure_rereads : Rereads Infrastructure := by
  -- There is nothing in the desired state, so only the metadata and what is observed count.
  refine rereads_of_tree fun node object sound reads exact => ?_
  simp only [Kind.read, Infrastructure.read, bind_ok_iff, pure_ok_iff, present_ok_iff] at reads
  obtain ⟨d, taken, metadata, hasMetadata, rfl⟩ := reads
  obtain ⟨valid, -⟩ := ObjectDraft.stateful_keeps (P := fun _ => True) (fun _ _ _ _ => trivial)
    sound taken
  have parts := ObjectDraft.stateful_tree (valid metadata hasMetadata) exact
    (rfl : record [] () ((Json.object []).tree 126) = .ok ()) d.status.join
    InfrastructureStatus.toJson
    (fun s _ => ⟨by simp [InfrastructureStatus.toJson, Json.record], s.read_toJson 124⟩)
    Infrastructure.type
  refine (bind_ok_iff ..).mpr ⟨_, parts, ?_⟩
  cases d.status.join <;> rfl

/-- Feature gates are decoded again as they were. -/
theorem featureGate_rereads : Rereads FeatureGate := by
  -- No state is observed of a feature gate; the desired one is a pair, and both parts come back.
  refine rereads_of_tree fun node object sound reads exact => ?_
  simp only [Kind.read, FeatureGate.read, bind_ok_iff, pure_ok_iff, present_ok_iff] at reads
  obtain ⟨d, taken, ⟨featureSet, lists⟩, -, metadata, hasMetadata, rfl⟩ := reads
  have valid := ObjectDraft.stateless_keeps sound taken metadata hasMetadata
  have parts := ObjectDraft.stateless_tree (τ := Unit) valid exact
    (FeatureGate.readSpec_record featureSet lists 123) FeatureGate.type
  exact (bind_ok_iff ..).mpr ⟨_, parts, rfl⟩

/-- Storages are decoded again as they were. -/
theorem storage_rereads : Rereads Storage := by
  -- Reading a storage reads its parts, and then asks that the needed ones are present.
  refine rereads_of_tree fun node object sound reads exact => ?_
  simp only [Kind.read, Storage.read, bind_ok_iff, pure_ok_iff, present_ok_iff] at reads
  obtain ⟨d, taken, metadata, hasMetadata, state, -, rfl⟩ := reads
  -- The times of all conditions have been read, so that they can be told.
  obtain ⟨valid, times⟩ := ObjectDraft.stateful_keeps
    (P := fun conditions => ∀ c ∈ conditions, c.lastTransitionTime.Valid)
    (fun _ _ sound reads => Storage.readStatus_valid sound reads) sound taken
  have parts := ObjectDraft.stateful_tree (valid metadata hasMetadata) exact
    (ManagementState.readSpec_specToJson state 125) d.status.join Storage.statusToJson
    (fun conditions there => ⟨by simp [Storage.statusToJson, Json.record],
      Storage.readStatus_statusToJson (times conditions there) 123⟩)
    Storage.type
  refine (bind_ok_iff ..).mpr ⟨_, parts, ?_⟩
  cases d.status.join <;> rfl

/-- Drivers' configurations are decoded again as they were. -/
theorem clusterCsiDriver_rereads : Rereads ClusterCsiDriver := by
  -- The desired state is read again by its name.
  refine rereads_of_tree fun node object sound reads exact => ?_
  simp only [Kind.read, ClusterCsiDriver.read, bind_ok_iff, pure_ok_iff, present_ok_iff] at reads
  obtain ⟨d, taken, metadata, hasMetadata, state, -, rfl⟩ := reads
  have valid := ObjectDraft.stateless_keeps sound taken metadata hasMetadata
  have parts := ObjectDraft.stateless_tree (τ := Unit) valid exact
    (ManagementState.readSpec_specToJson state 125) ClusterCsiDriver.type
  exact (bind_ok_iff ..).mpr ⟨_, parts, rfl⟩

/-- Records of operators are decoded again as they were. -/
theorem clusterOperator_rereads : Rereads ClusterOperator := by
  -- Reading a record reads its parts, of which the metadata has to be present.
  refine rereads_of_tree fun node object sound reads exact => ?_
  simp only [Kind.read, ClusterOperator.read, bind_ok_iff, pure_ok_iff, present_ok_iff] at reads
  obtain ⟨d, taken, metadata, hasMetadata, rfl⟩ := reads
  -- Nothing is asked of the related objects, since any of them is read again.
  obtain ⟨valid, -⟩ := ObjectDraft.stateful_keeps (P := fun _ => True) (fun _ _ _ _ => trivial)
    sound taken
  have parts := ObjectDraft.stateful_tree (valid metadata hasMetadata) exact
    (rfl : record [] () ((Json.object []).tree 126) = .ok ()) d.status.join
    ClusterOperator.statusToJson
    (fun objects _ => ⟨by simp [ClusterOperator.statusToJson, Json.record],
      ClusterOperator.readStatus_statusToJson objects 123⟩)
    ClusterOperator.type
  refine (bind_ok_iff ..).mpr ⟨_, parts, ?_⟩
  cases d.status.join <;> rfl

/-- Objects of every kind are decoded from their own encoding as they were decoded first, if each double
in their metadata is read from its own text. -/
theorem objects_reread :
    Rereads Infrastructure ∧ Rereads FeatureGate ∧ Rereads Storage ∧ Rereads ClusterCsiDriver ∧
      Rereads ClusterOperator :=
  -- Each kind has its own lemma, and they share the one on trees.
  ⟨infrastructure_rereads, featureGate_rereads, storage_rereads, clusterCsiDriver_rereads,
    clusterOperator_rereads⟩

/-- The doubles of the object that a text holds. -/
def doubles (α : Type) [Kind α] (text : String) : Option (List Decimal.Binary64) :=
  -- A text that does not decode has none that could be told.
  match (Json.decode Kind.read text : Read α) with
  | .ok object => some (Kind.metadata object).reals
  | .error _ => none

/-- They are the ones of an object that is decoded. -/
theorem decodes_of_doubles {α : Type} [Kind α] {text : String} {xs : List Decimal.Binary64}
    (held : doubles α text = some xs) :
    ∃ object : α, Json.decode Kind.read text = .ok object ∧ (Kind.metadata object).reals = xs := by
  -- The doubles are those of the object, if the text decodes at all.
  rw [doubles] at held
  split at held
  · rename_i object decodes
    exact ⟨object, decodes, Option.some.inj held⟩
  · cases held

/-- A storage with a half among its managed fields, and with a time of another zone. -/
def zonedText : String :=
  -- The number and the time are not written as they will be.
  "\x7b\"metadata\":\x7b\"managedFields\":[\x7b\"fieldsV1\":\x7b\"f:a\":0.50\x7d\x7d]\x7d,\"spec\":\x7b\x7d," ++
    "\"status\":\x7b\"conditions\":[\x7b\"type\":\"Available\",\"status\":\"True\",\"reason\":\"\"," ++
    "\"lastTransitionTime\":\"2024-05-01T10:00:00.25+02:00\"\x7d]\x7d\x7d"

/-- It is decoded again as it was. -/
theorem objects_reread_zoned :
    ∃ storage : Storage, Json.decode Kind.read zonedText = .ok storage ∧
      storage.metadata.reals = [⟨false, 4503599627370496, -53⟩] ∧
      Json.decode Kind.read (Kind.toJson storage).compact = .ok storage := by
  -- The text is evaluated to its doubles only, and its one double is read again.
  obtain ⟨storage, decodes, reals⟩ := decodes_of_doubles
    (by decide +kernel : doubles Storage zonedText = some [⟨false, 4503599627370496, -53⟩])
  refine ⟨storage, decodes, reals, objects_reread.2.2.1 _ storage decodes fun x real => ?_⟩
  rw [reals, List.mem_singleton] at real
  rw [Json.parse_real_iff, real]
  decide +kernel

/-- A driver with a number among its managed fields that is rounded twice while it is read. -/
def roundedText : String :=
  "\x7b\"metadata\":\x7b\"managedFields\":[\x7b\"fieldsV1\":\x7b\"f:a\":10e-24\x7d\x7d]\x7d,\"spec\":\x7b\x7d\x7d"

/-- The doubles of the driver that is decoded from the encoding of one that a text holds. -/
def doublesAgain (text : String) : Option (List Decimal.Binary64) :=
  -- The second text is the encoding of what the first one holds.
  match (Json.decode Kind.read text : Read ClusterCsiDriver) with
  | .ok driver => doubles ClusterCsiDriver (Kind.toJson driver).compact
  | .error _ => none

/-- The shortest text of that number is read as the double next to it. -/
theorem rounded_reread_otherwise :
    ∃ driver : ClusterCsiDriver, Json.decode Kind.read roundedText = .ok driver ∧
      Json.decode Kind.read (Kind.toJson driver).compact ≠ .ok driver := by
  -- The text is evaluated to its doubles before and after, which differ.
  obtain ⟨driver, decodes, reals⟩ := decodes_of_doubles (by decide +kernel :
    doubles ClusterCsiDriver roundedText = some [⟨false, 6805647338418769, -129⟩])
  refine ⟨driver, decodes, fun same => ?_⟩
  have again : doublesAgain roundedText = some [⟨false, 6805647338418770, -129⟩] := by
    decide +kernel
  -- An equal driver would have the first double again.
  rw [doublesAgain, decodes] at again
  change doubles ClusterCsiDriver (Kind.toJson driver).compact = _ at again
  rw [doubles, same] at again
  change some (Kind.metadata driver).reals = _ at again
  rw [reals] at again
  exact absurd again (by decide)

end CsiOperator.Kind
