import CsiOperator.Proofs.Resource.Metadata
import CsiOperator.Proofs.Resource.Status
import CsiOperator.Resource.ClusterCsiDriver

/-! Objects that have been read are read again as they were. -/

namespace CsiOperator

open Decode
open Failure (bind_ok_iff pure_ok_iff)
open Json (Sound Tree)

namespace ObjectDraft

variable {σ τ : Type} {readSpec : Tree → Read σ} {readStatus : Tree → Read τ}

/-- The parts of an object with an observed state may be read in any order. -/
theorem stateful_lawful (readSpec : Tree → Read σ) (readStatus : Tree → Read τ) :
    Lawful (stateful readSpec readStatus) where
  names := by simp [stateful, stateless]
  -- A field that has been read has been put into the draft.
  own := by
    simp only [stateful, stateless, List.cons_append, List.nil_append, List.forall_mem_cons,
      List.not_mem_nil, false_imp_iff, implies_true, and_true]
    and_intros
    all_goals
      intro draft node later reads
      obtain ⟨x, -, same⟩ := (bind_ok_iff ..).mp reads
      exact Except.ok.inj same ▸ rfl
  -- The fields put what they read into different parts of the draft.
  apart := by
    simp only [stateful, stateless, List.cons_append, List.nil_append, List.pairwise_cons,
      List.forall_mem_cons, List.not_mem_nil, false_imp_iff, implies_true, and_true,
      List.Pairwise.nil]
    and_intros
    all_goals exact .of_put (fun _ _ _ => rfl) (fun _ _ => rfl) fun _ _ => rfl

/-- So may the parts of an object without one. -/
theorem stateless_lawful (readSpec : Tree → Read σ) :
    Lawful (stateless readSpec : List (Field Tree (ObjectDraft σ τ))) where
  names := by simp [stateless]
  own := by
    simp only [stateless, List.forall_mem_cons, List.not_mem_nil, false_imp_iff, implies_true,
      and_true]
    and_intros
    all_goals
      intro draft node later reads
      obtain ⟨x, -, same⟩ := (bind_ok_iff ..).mp reads
      exact Except.ok.inj same ▸ rfl
  apart := by
    simp only [stateless, List.pairwise_cons, List.forall_mem_cons, List.not_mem_nil,
      false_imp_iff, implies_true, and_true, List.Pairwise.nil]
    exact .of_put (fun _ _ _ => rfl) (fun _ _ => rfl) fun _ _ => rfl

variable {metadata : Metadata} {spec : σ} {specJson : Json} {depth : Nat}

/-- The written parts of an object with an observed state are read as they were. -/
theorem stateful_tree (valid : metadata.Valid depth)
    (exact : ∀ x ∈ metadata.reals, Json.reread (.real x) = some (.real x))
    (rereadSpec : readSpec (specJson.tree (depth + 3)) = .ok spec) (status : Option τ)
    (write : τ → Json)
    (rereadStatus : ∀ v ∈ status, write v ≠ .null ∧
      readStatus ((write v).tree (depth + 3)) = .ok v) (type : ResourceType) :
    record (stateful readSpec readStatus) empty ((Json.record [
      ("apiVersion", some (.text type.apiVersion)), ("kind", some (.text type.kind)),
      ("metadata", some metadata.toJson), ("spec", some specJson),
      ("status", status.map write)]).tree (depth + 4)) =
      .ok ⟨some metadata, some spec, status.map some⟩ := by
  -- What is asked for by name comes first; then the parts are put in one after another.
  refine ((stateful_lawful readSpec readStatus).record_ok_iff (by simp) (depth + 3)
    (by simp [stateful, stateless, empty]) _).mpr ⟨by simp [stateful, stateless, List.lookup_cons], ?_⟩
  refine (fill_always (by simp [List.lookup_cons]) (Metadata.read_toJson valid exact)).trans <|
    (fill_always (by simp [List.lookup_cons]) rereadSpec).trans <|
    fill_written (depth + 3) (status.map write) (by simp [List.lookup_cons]) ?_ ?_
  -- A state that is absent is not written, and the draft stays as it was.
  · intro absent
    rw [Option.map_eq_none_iff.mp absent]
    rfl
  -- A state that is there is not null, and is put as one that is there.
  · intro json held
    obtain ⟨v, rfl, rfl⟩ := Option.map_eq_some_iff.mp held
    have reads := nullable_tree (rereadStatus v rfl).1 (rereadStatus v rfl).2
    exact (bind_ok_iff ..).mpr ⟨some v, reads, rfl⟩

/-- The written parts of an object without an observed state are read as they were. -/
theorem stateless_tree (valid : metadata.Valid depth)
    (exact : ∀ x ∈ metadata.reals, Json.reread (.real x) = some (.real x))
    (rereadSpec : readSpec (specJson.tree (depth + 3)) = .ok spec) (type : ResourceType) :
    record (stateless readSpec) (empty : ObjectDraft σ τ) ((Json.record [
      ("apiVersion", some (.text type.apiVersion)), ("kind", some (.text type.kind)),
      ("metadata", some metadata.toJson), ("spec", some specJson)]).tree (depth + 4)) =
      .ok ⟨some metadata, some spec, none⟩ := by
  -- Both fields are written, so each of them is read back by its own law.
  refine ((stateless_lawful readSpec).record_ok_iff (by simp) (depth + 3)
    (by simp [stateless, empty]) _).mpr ⟨by simp [stateless, List.lookup_cons], ?_⟩
  exact (fill_always (by simp [List.lookup_cons]) (Metadata.read_toJson valid exact)).trans <|
    fill_always (by simp [List.lookup_cons]) rereadSpec

/-- The metadata of an object that has been read can be read again, and its observed state has what
every observed state has that is read. -/
theorem stateful_keeps {P : τ → Prop}
    (keeps : ∀ node status, Sound (depth + 3) node → readStatus node = .ok status → P status)
    {node : Tree} (sound : Sound (depth + 4) node) {d : ObjectDraft σ τ}
    (reads : record (stateful readSpec readStatus) empty node = .ok d) :
    (∀ m ∈ d.metadata, m.Valid depth) ∧ ∀ v ∈ d.status.join, P v := by
  -- Both properties are kept by every field, since each field sets its own part alone.
  refine record_keeps (P := fun d : ObjectDraft σ τ =>
    (∀ m ∈ d.metadata, m.Valid depth) ∧ ∀ v ∈ d.status.join, P v) ?_ (by simp [empty]) sound reads
  simp only [stateful, stateless, List.cons_append, List.nil_append, List.forall_mem_cons,
    List.not_mem_nil, false_imp_iff, implies_true, and_true]
  refine ⟨?metadata, ?spec, ?status⟩
  all_goals
    rintro draft node later sound ⟨valid, holds⟩ reads
    obtain ⟨x, read, same⟩ := (bind_ok_iff ..).mp reads
    obtain rfl := Except.ok.inj same
  case metadata =>
    refine ⟨?_, holds⟩
    rintro m ⟨⟩
    exact Metadata.read_valid sound read
  case spec => exact ⟨valid, holds⟩
  case status =>
    refine ⟨valid, ?_⟩
    rintro v there
    obtain rfl : x = some v := there
    exact keeps node v sound (nullable_some read).2

/-- The metadata of an object that has been read can be read again. -/
theorem stateless_keeps {node : Tree} (sound : Sound (depth + 4) node) {d : ObjectDraft σ τ}
    (reads : record (stateless readSpec) empty node = .ok d) :
    ∀ m ∈ d.metadata, m.Valid depth := by
  -- The fields are read one after another, and only that of the metadata can break what is asked.
  refine record_keeps (P := fun d : ObjectDraft σ τ => ∀ m ∈ d.metadata, m.Valid depth) ?_
    (by simp [empty]) sound reads
  simp only [stateless, List.forall_mem_cons, List.not_mem_nil, false_imp_iff, implies_true,
    and_true]
  refine ⟨?metadata, ?spec⟩
  all_goals
    intro draft node later sound valid reads
    obtain ⟨x, read, same⟩ := (bind_ok_iff ..).mp reads
    obtain rfl := Except.ok.inj same
  case metadata =>
    rintro m ⟨⟩
    exact Metadata.read_valid sound read
  case spec => exact valid

end ObjectDraft

/-- The times of all conditions of a storage that has been read can be told. -/
theorem Storage.read_times {node : Tree} (sound : Sound Json.maxDepth node) {storage : Storage}
    (reads : read node = .ok storage) : ∀ c ∈ storage.conditions, c.lastTransitionTime.Valid := by
  -- Reading a storage reads its parts, and then asks that the needed ones are present.
  simp only [read, bind_ok_iff, pure_ok_iff, present_ok_iff] at reads
  obtain ⟨d, taken, _, -, _, -, rfl⟩ := reads
  -- What all conditions of a state have, they have when the state is read.
  obtain ⟨-, times⟩ := ObjectDraft.stateful_keeps
    (P := fun conditions => ∀ c ∈ conditions, c.lastTransitionTime.Valid)
    (fun _ _ sound reads => Storage.readStatus_valid sound reads) sound taken
  -- Without a state there are no conditions.
  cases held : d.status.join with
  | none => simp [conditions]
  | some found => simpa [conditions, held] using times found held

end CsiOperator
