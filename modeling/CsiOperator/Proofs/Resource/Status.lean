import CsiOperator.Proofs.Decode.Field
import CsiOperator.Proofs.Decode.Kept
import CsiOperator.Proofs.Decode.Written
import CsiOperator.Resource.ClusterOperator
import CsiOperator.Resource.FeatureGate
import CsiOperator.Resource.Infrastructure
import CsiOperator.Resource.Storage

/-! The desired and the observed states of objects are read again as they were. -/

namespace CsiOperator

open Decode
open Failure (bind_ok_iff pure_ok_iff)
open Json (Sound Tree)

/-- A text, or nothing in the place of an empty one. -/
def Decode.stated (s : String) : Option String :=
  if s.isEmpty then none else some s

/-- In the place of an empty text nothing is written. -/
theorem Decode.unlessEmpty_eq (s : String) : Condition.unlessEmpty s = (stated s).map .text := by
  -- Both sides ask whether the text is empty.
  rw [Condition.unlessEmpty, stated]
  split <;> rfl

/-- Where nothing stands the text is empty. -/
theorem Decode.getD_stated (s : String) : (stated s).getD "" = s := by
  -- A text that is left out is the empty one.
  rw [stated]
  split
  · rename_i empty
    exact (String.isEmpty_iff.mp empty).symm
  · rfl

section Single

variable {β : Type} (name : String) {read : Tree → Read β} {absence : Absence}

/-- The only field of a record is read by itself. -/
theorem Decode.single_lawful : Lawful (ν := Tree) [⟨name, Option.isSome,
    fun _ node => do return some (← read node), absence⟩] := by
  -- There is one field, so all that is asked of two of them holds.
  refine ⟨by simp, ?_, by simp⟩
  simp only [List.mem_singleton, forall_eq, bind_ok_iff, pure_ok_iff]
  rintro draft node later ⟨x, -, rfl⟩
  rfl

/-- The only field of a record is read from what an object shows under its name. -/
theorem Decode.single_shown {entries : List (String × Json)} {json : Json} {depth : Nat} {value : β}
    (there : shown entries name = some json) (reads : read (json.tree depth) = .ok value) :
    record [⟨name, Option.isSome, fun _ node => do return some (← read node), absence⟩] none
      ((Json.object entries).tree (depth + 1)) = .ok (some value) := by
  -- The field's part is what is shown under its name, and nothing else is there to be read.
  refine ((single_lawful name).record_tree_ok_iff entries depth (by simp) _).mpr
    ⟨by simp [there], ?_⟩
  exact fill_always (by rw [there]; rfl) reads

/-- A record whose only field may be left out is read as it was written. -/
theorem Decode.single_tree (depth : Nat) (held : Option β) (write : β → Json)
    (optional : absence ≠ .never) (rereads : ∀ v ∈ held, read ((write v).tree depth) = .ok v) :
    record [⟨name, Option.isSome, fun _ node => do return some (← read node), absence⟩] none
      ((Json.record [(name, held.map write)]).tree (depth + 1)) = .ok held := by
  -- The one field is written or left out, and either way its law tells what is read.
  refine ((single_lawful name).record_ok_iff (by simp) depth (by simp) held).mpr
    ⟨by simp [optional], ?_⟩
  exact fill_perhaps depth held write id (by simp) rfl (fun _ => rfl) rereads

/-- A record whose only field may be null is read as it was written. -/
theorem Decode.nullable_single (depth : Nat) (held : Option β) (write : β → Json)
    (optional : absence ≠ .never)
    (rereads : ∀ v ∈ held, write v ≠ .null ∧ read ((write v).tree depth) = .ok v) :
    record [⟨name, Option.isSome, fun _ node => do return some (← nullable read node), absence⟩] none
      ((Json.record [(name, held.map write)]).tree (depth + 1)) = .ok (held.map some) := by
  -- What is read is there, so that nothing has to be written for what is not.
  have reads (v : Option β) (member : v ∈ held.map some) :
      nullable read (((v.map write).getD .null).tree depth) = .ok v := by
    obtain ⟨v, held, rfl⟩ := Option.map_eq_some_iff.mp member
    exact nullable_tree (rereads v held).1 (rereads v held).2
  have single := single_tree name depth (held.map some) (fun v => (v.map write).getD .null) optional
    reads
  rwa [Option.map_map] at single

end Single

namespace Condition

/-- The fields of a condition may be read in any order. -/
theorem fields_lawful : Lawful (ν := Tree) fields where
  names := by simp [fields]
  own := by
    -- Each of the fields sets a part of its own.
    simp only [fields, List.forall_mem_cons, List.not_mem_nil, false_imp_iff, implies_true,
      and_true]
    and_intros
    all_goals
      intro draft node later reads
      obtain ⟨x, -, same⟩ := (bind_ok_iff ..).mp reads
      exact Except.ok.inj same ▸ rfl
  apart := by
    simp only [fields, List.pairwise_cons, List.forall_mem_cons, List.not_mem_nil, false_imp_iff,
      implies_true, and_true, List.Pairwise.nil]
    and_intros
    all_goals exact .of_put (fun _ _ _ => rfl) (fun _ _ => rfl) fun _ _ => rfl

/-- A condition is read as it was written, if its time can be told. -/
theorem read_toJson {c : Condition} (valid : c.lastTransitionTime.Valid) (depth : Nat) :
    read (ν := Tree) (c.toJson.tree (depth + 1)) = .ok c := by
  -- A status is written by its name, and a time by its text.
  have statuses : ConditionStatus.read ((Json.text c.status.name).tree depth) = .ok c.status :=
    variant_tree (ConditionStatus.ofName?_name c.status) depth
  -- A reason and a message that are empty are not written, and nothing is read in their place.
  have reads : record (ν := Tree) fields ⟨none, none, none, none, none⟩ (c.toJson.tree (depth + 1)) =
      .ok ⟨some c.type, some c.status, stated c.reason, stated c.message,
        some c.lastTransitionTime⟩ := by
    refine (fields_lawful.record_ok_iff (by simp) depth (by simp [fields]) _).mpr
      ⟨by simp [fields, List.lookup_cons], ?_⟩
    exact (fill_always (by simp) (text_tree c.type depth)).trans <|
      (fill_always (by simp [List.lookup_cons]) statuses).trans <|
      (fill_perhaps depth (stated c.reason) .text
        (fun reason => Draft.mk (some c.type) (some c.status) reason none none)
        (by simp [List.lookup_cons, unlessEmpty_eq]) rfl (fun _ => rfl) fun s _ => text_tree s depth).trans <|
      (fill_perhaps depth (stated c.message) .text
        (fun message => Draft.mk (some c.type) (some c.status) (stated c.reason) message none)
        (by simp [List.lookup_cons, unlessEmpty_eq]) rfl (fun _ => rfl) fun s _ => text_tree s depth).trans <|
      fill_always (by simp [List.lookup_cons]) (instant_tree valid depth)
  rw [read, reads]
  show Except.ok (⟨c.type, c.status, _, _, c.lastTransitionTime⟩ : Condition) = .ok c
  -- Where nothing has been read the text is empty, as it was.
  rw [getD_stated, getD_stated]

/-- The time of a condition that has been read can be told. -/
theorem read_valid {depth : Nat} {node : Tree} (sound : Sound (depth + 1) node) {c : Condition}
    (reads : read node = .ok c) : c.lastTransitionTime.Valid := by
  -- The time is kept by its field, and each field is read without regard to the others.
  simp only [read, bind_ok_iff, pure_ok_iff] at reads
  obtain ⟨d, taken, type, -, status, -, time, hasTime, rfl⟩ := reads
  have kept : ∀ t ∈ d.time, t.Valid := by
    refine record_keeps (P := fun d => ∀ t ∈ d.time, t.Valid) ?_ (by simp) sound taken
    simp only [fields, List.forall_mem_cons, List.not_mem_nil, false_imp_iff, implies_true,
      and_true]
    refine ⟨?_, ?_, ?_, ?_, ?time⟩
    all_goals
      intro draft node later sound valid reads
      obtain ⟨x, read, same⟩ := (bind_ok_iff ..).mp reads
      obtain rfl := Except.ok.inj same
    case time =>
      rintro t ⟨⟩
      exact instant_valid read
    -- The other fields leave the time alone.
    all_goals exact valid
  exact kept time ((present_ok_iff ..).mp hasTime)

end Condition

namespace RelatedObject

/-- The fields of a reference may be read in any order. -/
theorem fields_lawful : Lawful (ν := Tree) fields where
  names := by simp [fields]
  own := by
    -- Each of the fields sets a part of its own.
    simp only [fields, List.forall_mem_cons, List.not_mem_nil, false_imp_iff, implies_true,
      and_true]
    and_intros
    all_goals
      intro draft node later reads
      obtain ⟨x, -, same⟩ := (bind_ok_iff ..).mp reads
      exact Except.ok.inj same ▸ rfl
  apart := by
    simp only [fields, List.pairwise_cons, List.forall_mem_cons, List.not_mem_nil, false_imp_iff,
      implies_true, and_true, List.Pairwise.nil]
    and_intros
    all_goals exact .of_put (fun _ _ _ => rfl) (fun _ _ => rfl) fun _ _ => rfl

/-- A reference is read as it was written. -/
theorem read_toJson (o : RelatedObject) (depth : Nat) :
    read (ν := Tree) (o.toJson.tree (depth + 1)) = .ok o := by
  -- A namespace that is empty is not written, as with conditions.
  have reads : record (ν := Tree) fields ⟨none, none, none, none⟩ (o.toJson.tree (depth + 1)) =
      .ok ⟨some o.group, some o.resource, stated o.space, some o.name⟩ := by
    refine (fields_lawful.record_ok_iff (by simp) depth (by simp [fields]) _).mpr
      ⟨by simp [fields, List.lookup_cons], ?_⟩
    exact (fill_always (by simp) (text_tree o.group depth)).trans <|
      (fill_always (by simp [List.lookup_cons]) (text_tree o.resource depth)).trans <|
      (fill_perhaps depth (stated o.space) .text
        (fun space => Draft.mk (some o.group) (some o.resource) space none)
        (by rw [← unlessEmpty_eq]; rfl) rfl (fun _ => rfl)
        fun s _ => text_tree s depth).trans <|
      fill_always (by simp [List.lookup_cons]) (text_tree o.name depth)
  rw [read, reads]
  show Except.ok (⟨o.group, o.resource, _, o.name⟩ : RelatedObject) = .ok o
  rw [getD_stated]

end RelatedObject

/-- A platform is read as it was written. -/
theorem Platform.read_tree (p : Platform) (depth : Nat) :
    Platform.read ((Json.text p.name).tree depth) = .ok p := by
  -- The name of a platform stands for that platform.
  have stands : (fun name => some (ofName name)) p.name = some p :=
    congrArg some (ofName_name p)
  exact variant_tree stands depth

/-- What is observed of a provider is read as it was written. -/
theorem PlatformStatus.read_toJson (s : PlatformStatus) (depth : Nat) :
    PlatformStatus.read (ν := Tree) (s.toJson.tree (depth + 1)) = .ok s := by
  -- The only field is read by itself, and what is not written is read as absent.
  have reads := nullable_single "type" depth s.type (fun p => .text p.name)
    (by simp : Absence.anywhere ≠ .never) fun p _ => ⟨by simp, p.read_tree depth⟩
  refine (bind_ok_iff ..).mpr ⟨s.type.map some, reads, ?_⟩
  obtain ⟨type⟩ := s
  cases type <;> rfl

/-- What is observed of machines is read as it was written. -/
theorem InfrastructureStatus.read_toJson (s : InfrastructureStatus) (depth : Nat) :
    InfrastructureStatus.read (ν := Tree) (s.toJson.tree (depth + 2)) = .ok s := by
  -- The only field is read by itself, and what is not written is read as absent.
  have reads := nullable_single "platformStatus" (depth + 1) s.platformStatus PlatformStatus.toJson
    (by simp : Absence.anywhere ≠ .never) fun p _ =>
      ⟨by simp [PlatformStatus.toJson, Json.record], p.read_toJson depth⟩
  refine (bind_ok_iff ..).mpr ⟨s.platformStatus.map some, reads, ?_⟩
  obtain ⟨status⟩ := s
  cases status <;> rfl

/-- A desired state is read as it was written. -/
theorem ManagementState.readSpec_specToJson (state : Option ManagementState) (depth : Nat) :
    readSpec (ν := Tree) ((specToJson state).tree (depth + 1)) = .ok state := by
  -- The only field is read by itself, and what is not written is read as absent.
  have reads := nullable_single "managementState" depth state (fun s => .text s.name)
    (by simp : Absence.anywhere ≠ .never) fun s _ =>
      ⟨by simp, variant_tree (ManagementState.ofName?_name s) depth⟩
  refine (bind_ok_iff ..).mpr ⟨state.map some, reads, ?_⟩
  cases state <;> rfl

/-- Conditions are read as they were written, if their times can be told. -/
theorem Storage.readStatus_statusToJson {conditions : List Condition}
    (valid : ∀ c ∈ conditions, c.lastTransitionTime.Valid) (depth : Nat) :
    readStatus (ν := Tree) ((statusToJson conditions).tree (depth + 3)) = .ok conditions := by
  -- Each condition is one item of the list, a level further down.
  have all : list Condition.read
      ((Json.array (conditions.map Condition.toJson)).tree (depth + 2)) = .ok conditions :=
    list_tree fun c member => Condition.read_toJson (valid c member) depth
  have single (held : Option (List Condition)) (listed : ∀ cs ∈ held, cs = conditions) :=
    single_tree "conditions" (depth + 2) held (fun cs => .array (cs.map Condition.toJson))
      (by simp : Absence.anywhere ≠ .never) fun cs member => listed cs member ▸ all
  rw [statusToJson]
  -- Without conditions there is no list of them either.
  split
  · rename_i empty
    rw [List.isEmpty_iff.mp empty]
    exact (bind_ok_iff ..).mpr ⟨none, single none (by simp), rfl⟩
  · exact (bind_ok_iff ..).mpr ⟨some conditions, single (some conditions) (by simp), rfl⟩

/-- The times of conditions that have been read can be told. -/
theorem Storage.readStatus_valid {depth : Nat} {node : Tree} (sound : Sound (depth + 3) node)
    {conditions : List Condition} (reads : readStatus node = .ok conditions) :
    ∀ c ∈ conditions, c.lastTransitionTime.Valid := by
  -- The list has been read by the only field of the state.
  obtain ⟨held, taken, same⟩ := (bind_ok_iff ..).mp reads
  -- The list is kept by its only field, and each of its conditions has been read with it.
  have kept : ∀ cs ∈ held, ∀ c ∈ cs, c.lastTransitionTime.Valid := by
    refine record_keeps (P := fun held : Option (List Condition) =>
      ∀ cs ∈ held, ∀ c ∈ cs, c.lastTransitionTime.Valid) ?_ (by simp) sound taken
    simp only [List.mem_singleton, forall_eq, bind_ok_iff, pure_ok_iff]
    rintro draft node later sound - ⟨cs, read, rfl⟩ cs' ⟨⟩ c member
    obtain ⟨t, sound, reads⟩ := list_sound sound read c member
    exact Condition.read_valid sound reads
  obtain rfl := Except.ok.inj same
  cases held with
  | none => simp
  | some cs => exact kept cs rfl

/-- Related objects are read as they were written. -/
theorem ClusterOperator.readStatus_statusToJson (objects : List RelatedObject) (depth : Nat) :
    readStatus (ν := Tree) ((statusToJson objects).tree (depth + 3)) = .ok objects := by
  -- The only field is always written here, so its own law is enough.
  have reads := single_tree "relatedObjects" (depth + 2) (some objects)
    (fun os => .array (os.map RelatedObject.toJson)) (by simp : Absence.anywhere ≠ .never)
    fun os _ => list_tree fun o _ => o.read_toJson depth
  exact (bind_ok_iff ..).mpr ⟨some objects, reads, rfl⟩

/-- Two fields that may be left out may be read in either order. -/
theorem Decode.pair_lawful {β γ : Type} {first second : String} (names : first ≠ second)
    (readFirst : Tree → Read β) (readSecond : Tree → Read γ) :
    Lawful (σ := Option β × Option γ) [
      ⟨first, (·.1.isSome), fun d n => return (some (← readFirst n), d.2), .anywhere⟩,
      ⟨second, (·.2.isSome), fun d n => return (d.1, some (← readSecond n)), .anywhere⟩] where
  names := by simpa using names
  own := by
    -- Neither of the fields sets the part of the other.
    simp only [List.forall_mem_cons, List.not_mem_nil, false_imp_iff, implies_true, and_true,
      bind_ok_iff, pure_ok_iff]
    refine ⟨?_, ?_⟩
    all_goals
      rintro draft node later ⟨x, -, rfl⟩
      rfl
  apart := by
    simp only [List.pairwise_cons, List.forall_mem_cons, List.not_mem_nil, false_imp_iff,
      implies_true, and_true, List.Pairwise.nil]
    exact .of_put (fun _ _ _ => rfl) (fun _ _ => rfl) fun _ _ => rfl

/-- Two lists of gates are read as they were written. -/
theorem GateLists.read_toJson (g : GateLists) (depth : Nat) :
    GateLists.read (ν := Tree) (g.toJson.tree (depth + 2)) = .ok g := by
  -- Both lists are always written, so each field is read back by its own law.
  have lawful := pair_lawful (by decide : "enabled" ≠ "disabled") (list (text (ν := Tree)))
    (list text)
  refine (bind_ok_iff ..).mpr ⟨(some g.enabled, some g.disabled), ?_, rfl⟩
  refine (lawful.record_ok_iff (by simp) (depth + 1) (by simp) _).mpr ⟨by simp, ?_⟩
  exact (fill_always (by simp) (texts_tree g.enabled depth)).trans <|
    fill_always (by simp [List.lookup_cons]) (texts_tree g.disabled depth)

/-- A selection of features is read as it was written. -/
theorem FeatureGate.readSpec_record (featureSet : String) (lists : Option GateLists) (depth : Nat) :
    readSpec (ν := Tree) ((Json.record [
      ("featureSet", if featureSet.isEmpty then none else some (.text featureSet)),
      ("customNoUpgrade", lists.map GateLists.toJson)]).tree (depth + 3)) =
      .ok (featureSet, lists) := by
  -- Neither of the two fields sets the part of the other.
  have lawful := pair_lawful (by decide : "featureSet" ≠ "customNoUpgrade") (text (ν := Tree))
    (nullable GateLists.read)
  -- The set of features is not written when it is empty, and the lists are not when they are
  -- absent.
  refine (bind_ok_iff ..).mpr ⟨(stated featureSet, lists.map some), ?_, ?_⟩
  · refine (lawful.record_ok_iff (by simp) (depth + 2) (by simp) _).mpr ⟨by simp, ?_⟩
    exact (fill_perhaps (depth + 2) (stated featureSet) .text (·, none)
        (by rw [← unlessEmpty_eq]; rfl) rfl (fun _ => rfl) fun s _ => text_tree s _).trans <|
      fill_written (depth + 2) (lists.map GateLists.toJson) (by simp [List.lookup_cons])
        (by simp_all) fun json held => by
          obtain ⟨g, rfl, rfl⟩ := Option.map_eq_some_iff.mp held
          have reads := nullable_tree (by simp [GateLists.toJson, Json.record]) (g.read_toJson depth)
          exact (bind_ok_iff ..).mpr ⟨some g, reads, rfl⟩
  · show Except.ok ((stated featureSet).getD "", (lists.map some).join) = _
    rw [getD_stated]
    cases lists <;> rfl

end CsiOperator
