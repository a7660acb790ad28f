import CsiOperator.Proofs.Decode.Field
import CsiOperator.Proofs.Decode.Kept
import CsiOperator.Proofs.Decode.Written
import CsiOperator.Resource.Metadata

/-! Metadata that has been read is read again as it was. -/

namespace CsiOperator

open Decode
open Failure (bind_ok_iff pure_ok_iff)
open Json (Sound Sorted Tree)

namespace Owner

/-- A text that is always written is read. -/
theorem fill_text {σ : Type} {name : String} {put : σ → String → σ}
    {rest : List (String × (σ → Tree → Read σ))} {draft : σ} {given : String → Option Tree}
    (depth : Nat) (s : String) (shows : given name = some ((Json.text s).tree depth)) :
    fill ((name, fun draft node => do return put draft (← readText node)) :: rest) draft given =
      fill rest (put draft s) given := by
  -- A text is written in any case, and it is never null.
  refine fill_always shows ?_
  rw [readText, nullable_tree (by simp) (text_tree s depth)]
  rfl

/-- An owner is read as it was written. -/
theorem read_toJson (o : Owner) (depth : Nat) :
    read (ν := Tree) (o.toJson.tree (depth + 1)) = .ok o := by
  -- One after another, each field is put into the draft, which is the owner at the end.
  refine (Independent.latest_ok_iff ⟨by simp, ?_⟩ (by simp) depth _ o).mpr ?_
  · simp only [List.pairwise_cons, List.forall_mem_cons, List.not_mem_nil, false_imp_iff,
      implies_true, and_true, List.Pairwise.nil]
    and_intros
    all_goals exact Commute.of_put fun _ _ _ => rfl
  · -- The fields are read one after another, and each of them is put where it was.
    have truths (b : Bool) : Json.bool b ≠ .null ∧ truth ((Json.bool b).tree depth) = .ok b :=
      ⟨by simp, truth_tree b depth⟩
    exact (fill_text depth o.apiVersion (by simp)).trans <|
      (fill_nullable depth o.blockOwnerDeletion .bool (by simp [List.lookup_cons]) rfl
        fun b _ => truths b).trans <|
      (fill_nullable depth o.controller .bool (by simp [List.lookup_cons]) rfl
        fun b _ => truths b).trans <|
      (fill_text depth o.kind (by simp [List.lookup_cons])).trans <|
      (fill_text depth o.name (by simp [List.lookup_cons])).trans <|
      fill_text depth o.uid (by simp [List.lookup_cons])

end Owner

/-- A text that may be absent is read as it was written. -/
theorem Decode.text_rereads (depth : Nat) (value : Option String) :
    ∀ s ∈ value, Json.text s ≠ .null ∧ text ((Json.text s).tree depth) = .ok s :=
  fun s _ => ⟨by simp, text_tree s depth⟩

/-- An instant that may be absent is read as it was written. -/
theorem Decode.instant_rereads (depth : Nat) {value : Option Time.Timestamp}
    (valid : ∀ t ∈ value, t.Valid) : ∀ t ∈ value,
      Json.text t.text ≠ .null ∧ instant ((Json.text t.text).tree depth) = .ok t :=
  fun t member => ⟨by simp, instant_tree (valid t member) depth⟩

namespace FieldsEntry

/-- An entry that has been read with so many more levels for its fields. -/
structure Valid (depth : Nat) (e : FieldsEntry) : Prop where
  /-- The fields have been read. -/
  fieldsV1 : ∀ json ∈ e.fieldsV1, ∃ t, t ≠ .null ∧ Sound depth t ∧ t.readAny = .ok json
  /-- The time can be told. -/
  time : ∀ t ∈ e.time, t.Valid

/-- The doubles among the fields of an entry. -/
def reals (e : FieldsEntry) : List Decimal.Binary64 :=
  -- Only one field of an entry may have numbers in it.
  match e.fieldsV1 with
  | none => []
  | some json => json.reals

/-- An entry that has been read is read again as it was, if its doubles are. -/
theorem read_toJson {e : FieldsEntry} {depth : Nat} (valid : e.Valid depth)
    (exact : ∀ x ∈ e.reals, Json.reread (.real x) = some (.real x)) :
    read (ν := Tree) (e.toJson.tree (depth + 1)) = .ok e := by
  -- What stands among the fields is not null, and it has been read before.
  have fields : ∀ json ∈ e.fieldsV1, json ≠ .null ∧ any (json.tree depth) = .ok json := by
    intro json held
    obtain ⟨t, there, sound, reads⟩ := valid.fieldsV1 json held
    have isHeld : e.fieldsV1 = some json := held
    refine ⟨?_, Json.readAny_again sound reads fun x real => exact x (by simpa [reals, isHeld])⟩
    rintro rfl
    exact there (shape_of_readAny reads)
  -- The fields are put in one after another, and the order in which they are read does not matter.
  refine (Independent.latest_ok_iff ⟨by simp, ?_⟩ (by simp) depth _ e).mpr ?_
  · simp only [List.pairwise_cons, List.forall_mem_cons, List.not_mem_nil, false_imp_iff,
      implies_true, and_true, List.Pairwise.nil]
    and_intros
    all_goals exact Commute.of_put fun _ _ _ => rfl
  · exact (fill_nullable depth e.apiVersion .text (by simp) rfl
        (text_rereads depth _)).trans <|
      (fill_nullable depth e.fieldsType .text (by simp [List.lookup_cons]) rfl
        (text_rereads depth _)).trans <|
      (fill_nullable depth e.fieldsV1 id (by simp [List.lookup_cons]) rfl fields).trans <|
      (fill_nullable depth e.manager .text (by simp [List.lookup_cons]) rfl
        (text_rereads depth _)).trans <|
      (fill_nullable depth e.operation .text (by simp [List.lookup_cons]) rfl
        (text_rereads depth _)).trans <|
      (fill_nullable depth e.subresource .text (by simp [List.lookup_cons]) rfl
        (text_rereads depth _)).trans <|
      fill_nullable depth e.time (fun t => .text t.text) (by simp [List.lookup_cons]) rfl
        (instant_rereads depth valid.time)

/-- What is read is an entry of which all can be read again. -/
theorem read_valid {depth : Nat} {node : Tree} (sound : Sound (depth + 1) node) {e : FieldsEntry}
    (reads : read node = .ok e) : e.Valid depth := by
  -- Each field reads one part, of which only the field entries are asked for anything.
  refine latest_keeps ?_ ⟨by simp, by simp⟩ sound reads
  simp only [List.forall_mem_cons, List.not_mem_nil, false_imp_iff, implies_true, and_true]
  refine ⟨?_, ?_, ?_, ?_, ?_, ?_, ?_⟩
  all_goals
    intro draft node later sound valid reads
    obtain ⟨value, read, same⟩ := (bind_ok_iff ..).mp reads
    obtain rfl := Except.ok.inj same
  -- Only the fields and the time can be anything that could not be read again.
  case refine_3 =>
    refine ⟨?_, valid.time⟩
    rintro json rfl
    obtain ⟨there, shows⟩ := nullable_some read
    exact ⟨node, there, sound, shows⟩
  case refine_7 =>
    refine ⟨valid.fieldsV1, ?_⟩
    rintro t rfl
    exact instant_valid (nullable_some read).2
  all_goals exact ⟨valid.fieldsV1, valid.time⟩

end FieldsEntry

namespace Metadata

/-- The names, the namespace and the version of metadata are read from their own fields. -/
theorem texts_hold {ν : Type} [Source ν] :
    HoldsLatest (ν := ν) fields "name" Metadata.name (nullable text) ∧
      HoldsLatest (ν := ν) fields "generateName" Metadata.generateName (nullable text) ∧
      HoldsLatest (ν := ν) fields "namespace" Metadata.space (nullable text) ∧
      HoldsLatest (ν := ν) fields "resourceVersion" Metadata.resourceVersion (nullable text) := by
  -- Each field sets one part of its own, which is looked up in the list of fields.
  refine ⟨⟨?_, ?_, ?_⟩, ⟨?_, ?_, ?_⟩, ⟨?_, ?_, ?_⟩, ⟨?_, ?_, ?_⟩⟩
  -- No field sets a part that belongs to another one.
  all_goals simp [fields, Json.lookup_cons_eq]

/-- Metadata that has been read with so many more levels for the fields of its entries. -/
structure Valid (depth : Nat) (m : Metadata) : Prop where
  /-- Annotations are sorted. -/
  annotations : ∀ entries ∈ m.annotations, Sorted entries
  /-- The time of creation can be told. -/
  creationTimestamp : ∀ t ∈ m.creationTimestamp, t.Valid
  /-- Seconds fit 64 bits. -/
  deletionGracePeriodSeconds :
    ∀ n ∈ m.deletionGracePeriodSeconds, Decimal.fitsSigned 64 n = true
  /-- The time of deletion can be told. -/
  deletionTimestamp : ∀ t ∈ m.deletionTimestamp, t.Valid
  /-- Generations fit 64 bits. -/
  generation : ∀ n ∈ m.generation, Decimal.fitsSigned 64 n = true
  /-- Labels are sorted. -/
  labels : ∀ entries ∈ m.labels, Sorted entries
  /-- The entries have been read. -/
  managedFields : ∀ entries ∈ m.managedFields, ∀ e ∈ entries, e.Valid depth

/-- The doubles in metadata. -/
def reals (m : Metadata) : List Decimal.Binary64 :=
  -- Only one field of metadata may have doubles, and it is the one with entries.
  match m.managedFields with
  | none => []
  | some entries => entries.flatMap FieldsEntry.reals

/-- The fields of metadata may be read in any order. -/
theorem fields_independent : Independent (ν := Tree) fields where
  names := by simp [fields]
  commute := by
    simp only [fields, List.pairwise_cons, List.forall_mem_cons, List.not_mem_nil, false_imp_iff,
      implies_true, and_true, List.Pairwise.nil]
    and_intros
    all_goals exact Commute.of_put fun _ _ _ => rfl

/-- Metadata that has been read is read again as it was, if its doubles are. -/
theorem read_toJson {m : Metadata} {depth : Nat} (valid : m.Valid depth)
    (exact : ∀ x ∈ m.reals, Json.reread (.real x) = some (.real x)) :
    read (ν := Tree) (m.toJson.tree (depth + 3)) = .ok m := by
  -- First each kind of value is read again: sorted maps, integers that fit, lists, entries, owners.
  have maps {entries : Option (List (String × String))} (sorted : ∀ es ∈ entries, Sorted es) :
      ∀ es ∈ entries, Json.textMap es ≠ .null ∧
        map text ((Json.textMap es).tree (depth + 2)) = .ok es :=
    fun es member => ⟨by simp [Json.textMap], textMap_tree (sorted es member) _⟩
  have integers {n : Option Int} (fits : ∀ k ∈ n, Decimal.fitsSigned 64 k = true) :
      ∀ k ∈ n, Json.integer k ≠ .null ∧ integer ((Json.integer k).tree (depth + 2)) = .ok k :=
    fun k member => ⟨by simp [Json.integer], integer_tree (fits k member) _⟩
  have finalizers : ∀ items ∈ m.finalizers, Json.texts items ≠ .null ∧
      list text ((Json.texts items).tree (depth + 2)) = .ok items :=
    fun items _ => ⟨by simp [Json.texts], texts_tree items _⟩
  have managed : ∀ entries ∈ m.managedFields, Json.array (entries.map FieldsEntry.toJson) ≠ .null ∧
      list FieldsEntry.read ((Json.array (entries.map FieldsEntry.toJson)).tree (depth + 2)) =
        .ok entries := by
    intro entries held
    have isHeld : m.managedFields = some entries := held
    refine ⟨by simp, list_tree fun e member => ?_⟩
    refine FieldsEntry.read_toJson (valid.managedFields entries held e member) fun x real => ?_
    exact exact x (by simpa [reals, isHeld] using ⟨e, member, real⟩)
  have owners : ∀ os ∈ m.ownerReferences, Json.array (os.map Owner.toJson) ≠ .null ∧
      list Owner.read ((Json.array (os.map Owner.toJson)).tree (depth + 2)) = .ok os :=
    fun os _ => ⟨by simp, list_tree fun o _ => Owner.read_toJson o depth⟩
  have texts := text_rereads (depth + 2)
  refine (fields_independent.latest_ok_iff (by simp) (depth + 2) _ m).mpr ?_
  -- Now the fields are put into the draft, in the order in which they are declared.
  exact (fill_nullable (depth + 2) m.annotations .textMap (by simp) rfl
      (maps valid.annotations)).trans <|
    (fill_nullable (depth + 2) m.creationTimestamp (fun t => .text t.text) (by simp [List.lookup_cons])
      rfl (instant_rereads _ valid.creationTimestamp)).trans <|
    (fill_nullable (depth + 2) m.deletionGracePeriodSeconds .integer (by simp [List.lookup_cons]) rfl
      (integers valid.deletionGracePeriodSeconds)).trans <|
    (fill_nullable (depth + 2) m.deletionTimestamp (fun t => .text t.text) (by simp [List.lookup_cons])
      rfl (instant_rereads _ valid.deletionTimestamp)).trans <|
    (fill_nullable (depth + 2) m.finalizers .texts (by simp [List.lookup_cons]) rfl finalizers).trans <|
    (fill_nullable (depth + 2) m.generateName .text (by simp [List.lookup_cons]) rfl (texts _)).trans <|
    (fill_nullable (depth + 2) m.generation .integer (by simp [List.lookup_cons]) rfl
      (integers valid.generation)).trans <|
    (fill_nullable (depth + 2) m.labels .textMap (by simp [List.lookup_cons]) rfl
      (maps valid.labels)).trans <|
    (fill_nullable (depth + 2) m.managedFields (fun es => .array (es.map FieldsEntry.toJson))
      (by simp [List.lookup_cons]) rfl managed).trans <|
    (fill_nullable (depth + 2) m.name .text (by simp [List.lookup_cons]) rfl (texts _)).trans <|
    (fill_nullable (depth + 2) m.space .text (by simp [List.lookup_cons]) rfl (texts _)).trans <|
    (fill_nullable (depth + 2) m.ownerReferences (fun os => .array (os.map Owner.toJson))
      (by simp [List.lookup_cons]) rfl owners).trans <|
    (fill_nullable (depth + 2) m.resourceVersion .text (by simp [List.lookup_cons]) rfl
      (texts _)).trans <|
    (fill_nullable (depth + 2) m.selfLink .text (by simp [List.lookup_cons]) rfl (texts _)).trans <|
    fill_nullable (depth + 2) m.uid .text (by simp [List.lookup_cons]) rfl (texts _)

/-- What is read is metadata of which all can be read again. -/
theorem read_valid {depth : Nat} {node : Tree} (sound : Sound (depth + 3) node) {m : Metadata}
    (reads : read node = .ok m) : m.Valid depth := by
  -- Metadata is read by its latest fields, one after another.
  change latest fields empty node = .ok m at reads
  -- Each field keeps everything that is asked of the others, so only its own has to be shown.
  refine latest_keeps ?_ ⟨by simp [empty], by simp [empty], by simp [empty], by simp [empty],
    by simp [empty], by simp [empty], by simp [empty]⟩ sound reads
  simp only [fields, List.forall_mem_cons, List.not_mem_nil, false_imp_iff, implies_true, and_true]
  refine ⟨?annotations, ?created, ?grace, ?deleted, ?_, ?_, ?generation, ?labels, ?managed,
    ?_, ?_, ?_, ?_, ?_, ?_⟩
  all_goals
    intro draft node later sound valid reads
    obtain ⟨value, read, same⟩ := (bind_ok_iff ..).mp reads
    obtain rfl := Except.ok.inj same
  case annotations =>
    exact { valid with
      annotations := by
        rintro entries rfl
        exact map_sorted (nullable_some read).2 }
  case labels =>
    exact { valid with
      labels := by
        rintro entries rfl
        exact map_sorted (nullable_some read).2 }
  case created =>
    exact { valid with
      creationTimestamp := by
        rintro t rfl
        exact instant_valid (nullable_some read).2 }
  case deleted =>
    exact { valid with
      deletionTimestamp := by
        rintro t rfl
        exact instant_valid (nullable_some read).2 }
  case grace =>
    exact { valid with
      deletionGracePeriodSeconds := by
        rintro n rfl
        exact integer_fits (nullable_some read).2 }
  case generation =>
    exact { valid with
      generation := by
        rintro n rfl
        exact integer_fits (nullable_some read).2 }
  case managed =>
    refine { valid with managedFields := ?_ }
    rintro entries rfl e member
    obtain ⟨t, sound, reads⟩ := list_sound sound (nullable_some read).2 e member
    exact FieldsEntry.read_valid sound reads
  -- Nothing is asked of the other fields.
  all_goals exact { valid with }

end Metadata

end CsiOperator
