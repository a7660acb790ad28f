import CsiOperator.Proofs.Resource.ClusterOperator
import CsiOperator.Resource.Infrastructure

/-! The platform that is read of a cluster is the one that its object names. -/

namespace CsiOperator

open Decode
open Json (Tree)

namespace Json.Tree

/-- A part that is there and not null. -/
def given? : Option Tree → Option Tree
  -- Null counts as not being there.
  | none | some .null => none
  | some node => some node

/-- The name that a choice is made by: a text, or the only key of an object, whose value is null. -/
def choice? : Tree → Option String
  -- An object with more than one key names no choice.
  | .text name => name
  | .object [(key, .null)] => key.text?
  | _ => none

end Json.Tree

namespace Decode

/-- A value that may be null is read from its part unless that is missing or null. -/
theorem ReadPart.nullable {β : Type} {read : Tree → Read β} {part : Option Tree}
    {held : Option (Option β)} (reads : ReadPart (given (nullable read)) part none held) :
    (Tree.given? part).map read = held.join.map .ok := by
  -- A part that is null is read as nothing, just as if it were missing.
  cases part with
  | none =>
    obtain rfl : held = none := reads
    rfl
  | some node =>
    obtain ⟨value, taken, rfl⟩ := (given_ok_iff ..).mp reads
    rw [nullable_eq] at taken
    cases node with
    | null =>
      obtain rfl : none = value := Except.ok.inj taken
      rfl
    | _ =>
      obtain ⟨found, present, rfl⟩ := (given_ok_iff ..).mp taken
      exact congrArg some present

/-- What is named in a part stands for what is found in the value that is read from it. -/
theorem map_bind_of_reads {β γ δ : Type} {read : Tree → Read β} {part : Option Tree}
    {held : Option β} (same : part.map read = held.map .ok) {name : Tree → Option γ}
    {means : γ → δ} {find : β → Option δ}
    (agree : ∀ node value, read node = .ok value → (name node).map means = find value) :
    (part.bind name).map means = held.bind find := by
  -- The part and what is held are there together or not at all.
  cases part with
  | none =>
    obtain rfl : held = none := by simpa using same.symm
    rfl
  | some node =>
    obtain ⟨value, rfl, reads⟩ := Option.map_eq_some_iff.mp same.symm
    exact agree node value reads.symm

end Decode

namespace Platform

/-- Every platform but the unknown one is recognized. -/
theorem mem_recognized_iff (p : Platform) : p ∈ recognized ↔ p ≠ unknown := by
  cases p <;> decide

/-- A recognized platform has no name but its own. -/
theorem ofName_eq_iff {p : Platform} (known : p ∈ recognized) (name : String) :
    ofName name = p ↔ name = p.name := by
  -- Recognized platforms have names of their own, so a name leads back to one platform at most.
  constructor
  · -- A name that no platform has stands for the unknown one.
    intro means
    unfold ofName at means
    cases found : recognized.find? fun q => q.name == name with
    | none =>
      rw [found] at means
      exact absurd means.symm ((mem_recognized_iff p).mp known)
    | some q =>
      rw [found] at means
      obtain rfl : q = p := means
      have same : q.name = name := by simpa using List.find?_some found
      exact same.symm
  · rintro rfl
    exact ofName_name p

/-- The platform that is read is the one that the name stands for. -/
theorem read_ok {node : Tree} {p : Platform} (reads : read node = .ok p) :
    node.choice?.map ofName = some p := by
  -- A choice is a text, or an object with one entry.
  cases node with
  | text name =>
    cases name with
    | none => cases reads
    | some name => exact congrArg some (Except.ok.inj reads)
  | object entries =>
    rcases entries with _ | ⟨⟨key, value⟩, rest⟩
    · cases reads
    · -- The key is the name, and nothing but null may stand beside it.
      obtain ⟨name, isName, reads⟩ := (Failure.bind_ok_iff ..).mp reads
      obtain ⟨chosen, picks, reads⟩ := (Failure.bind_ok_iff ..).mp reads
      cases value with
      | null =>
        rcases rest with _ | ⟨next, more⟩
        · obtain rfl : chosen = p := Except.ok.inj reads
          have named := (Tree.readText_ok_iff ..).mp isName
          simp only [Tree.choice?, named]
          exact congrArg some (Except.ok.inj picks)
        · cases reads
      | number value => cases value <;> cases reads
      | text value => cases value <;> cases reads
      | _ => cases reads
  | _ => cases reads

end Platform

namespace PlatformStatus

/-- The name of the platform that is observed of a provider. -/
def typeName? (node : Tree) : Option String :=
  (Tree.given? (node.part? ["type"] "type")).bind Tree.choice?

/-- The platform that is read is the one that the name of the type stands for. -/
theorem read_type {node : Tree} {s : PlatformStatus} (reads : read node = .ok s) :
    (typeName? node).map Platform.ofName = s.type := by
  -- The status has one field, whose part is the one that the name is taken from.
  obtain ⟨held, taken, rfl⟩ := by
    simpa only [read, Failure.bind_ok_iff, Failure.pure_ok_iff] using reads
  have part := (record_part (.only "type" _ _) taken).nullable
  exact (map_bind_of_reads part fun _ _ => Platform.read_ok).trans (Option.bind_fun_some _)

end PlatformStatus

namespace InfrastructureStatus

/-- The name of the platform that is observed of machines. -/
def platformName? (node : Tree) : Option String :=
  (Tree.given? (node.part? ["platformStatus"] "platformStatus")).bind PlatformStatus.typeName?

/-- The platform that is read is the one that is observed of the provider. -/
theorem read_platform {node : Tree} {s : InfrastructureStatus} (reads : read node = .ok s) :
    (platformName? node).map Platform.ofName = s.platformStatus.bind (·.type) := by
  -- The status has one field, whose part is the one that the platform is taken from.
  obtain ⟨held, taken, rfl⟩ := by
    simpa only [read, Failure.bind_ok_iff, Failure.pure_ok_iff] using reads
  have part := (record_part (.only "platformStatus" _ _) taken).nullable
  exact map_bind_of_reads part fun _ _ => PlatformStatus.read_type

end InfrastructureStatus

namespace Infrastructure

/-- The name of the platform that an object reports, if it reports one. -/
def platformName? (node : Tree) : Option String :=
  -- The parts of an object may be named or come in their order.
  (Tree.given? (node.part? ["metadata", "spec", "status"] "status")).bind
    InfrastructureStatus.platformName?

/-- The platform that is read of an object is the one that its name stands for. -/
theorem read_platform {node : Tree} {i : Infrastructure} (reads : read node = .ok i) :
    (platformName? node).map Platform.ofName = i.platform := by
  -- Metadata and the desired state are read from other parts, and say nothing about it.
  obtain ⟨d, taken, metadata, -, rfl⟩ := by
    simpa only [read, Failure.bind_ok_iff, Failure.pure_ok_iff] using reads
  have part := (record_part (ObjectDraft.stateful_hold _ _).2 taken).nullable
  exact map_bind_of_reads part fun _ _ => InfrastructureStatus.read_platform

end Infrastructure

end CsiOperator
