import CsiOperator.Proofs.Manifest.Reading
import CsiOperator.Proofs.Resource.Metadata
import CsiOperator.Proofs.Yaml.Value

/-! Which documents are manifests, and what a manifest has of its document. -/

namespace CsiOperator

open Decode
open Failure (bind_ok_iff pure_ok_iff ofRead_ok_iff throw_bind_ok_iff)
open Yaml (Tree Value)

namespace Manifest

/-- Metadata is left out, or given once and read. -/
def GivesMetadata (nodes : List Tree) (metadata : Metadata) : Prop :=
  -- It may not be given twice, even if both times it is the same.
  (nodes = [] ∧ metadata = Metadata.empty) ∨
    ∃ node, nodes = [node] ∧ Metadata.read node = .ok metadata

/-- The metadata that is kept is what is given, or empty. -/
theorem givesMetadata_iff (nodes : List Tree) (metadata : Metadata) :
    GivesMetadata nodes metadata ↔
      ∃ held, TakesMetadata nodes none held ∧ metadata = held.getD Metadata.empty := by
  -- Empty metadata takes the place of metadata that is not given.
  constructor
  · rintro (⟨rfl, rfl⟩ | ⟨node, rfl, reads⟩)
    · exact ⟨none, .absent _, rfl⟩
    · exact ⟨some metadata, .once reads, rfl⟩
  · rintro ⟨held, takes, rfl⟩
    cases takes with
    | absent => exact .inl ⟨rfl, rfl⟩
    | once reads => exact .inr ⟨_, rfl, reads⟩

/-- A document decodes as an object with these entries and this metadata. -/
structure Decodes (document : String) (entries : List (Tree × Tree)) (metadata : Metadata) :
    Prop where
  /-- The document is a map with these entries. -/
  whole : Yaml.decode Tree.readEntries document = .ok entries
  /-- Every key is a text. -/
  keyed : ∀ e ∈ entries, ∃ name, e.1.readText = .ok name
  /-- The metadata is that of the document. -/
  metadata : GivesMetadata (given (labelled entries) "metadata") metadata
  /-- Every other field has a value, with texts as its keys. -/
  valued : ∀ f ∈ labelled entries, f.1 ≠ "metadata" →
    ∃ value, f.2.readUntyped = .ok value ∧ value.Named

/-- A field is given once, and what it gives is a text. -/
def Tells (entries : List (Tree × Tree)) (name s : String) : Prop :=
  ∃ node, given (labelled entries) name = [node] ∧ node.readUntyped = .ok (.text s)

/-- A document decodes as an object, and tells a type and a name that are not empty. -/
def Acceptable (document : String) : Prop :=
  -- A type is told by one text each, and a name by whatever counts last in the metadata.
  ∃ entries metadata, Decodes document entries metadata ∧
    (∃ s, Tells entries "apiVersion" s ∧ s ≠ "") ∧ (∃ s, Tells entries "kind" s ∧ s ≠ "") ∧
    ∃ name, metadata.name = some name ∧ name ≠ ""

/-- The last node under a name in the metadata, if that is given. -/
def inMetadata (entries : List (Tree × Tree)) (name : String) : Option Tree :=
  -- Metadata that is given more than once is no metadata, and nothing is found in it.
  match given (labelled entries) "metadata" with
  | [node] => match node.readEntries with
    | .ok inner => (labelled inner).reverse.lookup name
    | .error _ => none
  | _ => none

/-- What the document gives last under a name is what is kept under it, if anything. -/
def Keeps (entries : List (Tree × Tree)) (kept : List (String × Json)) (name : String) : Prop :=
  -- Entries of one name replace each other, as they do in JSON.
  match (labelled entries).reverse.lookup name with
  | none => kept.lookup name = none
  | some node => ∃ value json, node.readUntyped = .ok value ∧ value.Shows json ∧
    kept.lookup name = some json

/-- A manifest has its type, its metadata and its other fields from its document. -/
structure Written (document : String) (entries : List (Tree × Tree)) (m : Manifest) : Prop where
  /-- The document is an object with the metadata of the manifest. -/
  decodes : Decodes document entries m.metadata
  /-- It tells the API version. -/
  version : Tells entries "apiVersion" m.apiVersion
  /-- It tells the kind. -/
  kind : Tells entries "kind" m.kind
  /-- Its other fields are those of the manifest. -/
  others : ∀ name, name ∉ ["metadata", "apiVersion", "kind"] → Keeps entries m.fields name
  /-- The manifest has none of the three among its other fields. -/
  apart : ∀ name, name ∈ ["metadata", "apiVersion", "kind"] → m.fields.lookup name = none
  /-- The other fields of the manifest have names of their own. -/
  distinct : (m.fields.map (·.1)).Nodup

/-- A text that may be missing is not empty when there is one. -/
theorem getD_nonempty_iff (held : Option String) :
    (held.getD "").isEmpty = false ↔ ∃ s, held = some s ∧ s ≠ "" := by
  cases held <;> simp

/-- A document is parsed when it is read as an object that tells a type and a name. -/
theorem parse_ok_iff {document : String} {m : Manifest} : parse document = .ok m ↔
    Yaml.decode read document = .ok (some (m.apiVersion, m.kind), m.metadata, m.fields) ∧
      m.apiVersion ≠ "" ∧ m.kind ≠ "" ∧ ∃ name, m.metadata.name = some name ∧ name ≠ "" := by
  -- Each check either fails or leaves what has been read as it is.
  rw [parse, bind_ok_iff]
  simp only [ofRead_ok_iff, ← getD_nonempty_iff]
  constructor
  · rintro ⟨⟨type, metadata, fields⟩, decoded, rest⟩
    cases type with
    | none => cases rest
    | some type =>
      obtain ⟨a, k⟩ := type
      simp only at rest
      split at rest
      · exact ((throw_bind_ok_iff ..).mp rest).elim
      · rename_i typed
        split at rest
        · exact ((throw_bind_ok_iff ..).mp rest).elim
        · rename_i named
          obtain rfl := (pure_ok_iff ..).mp rest
          obtain ⟨version, kind⟩ := by simpa using typed
          exact ⟨decoded, version, kind, by simpa using named⟩
  · rintro ⟨decoded, version, kind, named⟩
    refine ⟨_, decoded, ?_⟩
    have typed : ¬ (m.apiVersion.isEmpty || m.kind.isEmpty) = true := by simp [version, kind]
    simp only [if_neg typed, named, Bool.false_eq_true, if_false]
    rfl

section Reads

variable {entries : List (Tree × Tree)} {outcomes : List (String × Read Json)}
  {values : List (String × Json)}
  (reads : ReadAs untyped (without ["metadata"] (labelled entries)) outcomes)
  (found : ReadAs id (without ["apiVersion", "kind"] outcomes) values)

include reads

/-- A field is told by a text exactly when it is given once and read as one. -/
theorem tells_iff {name : String} (other : name ∉ ["metadata"]) (s : String) :
    given outcomes name = [told s] ↔ Tells entries name s := by
  -- Only a text is read as a text, so that one outcome stands for one node.
  have same := reads.given name
  rw [given_without other] at same
  constructor
  · intro once
    rw [once] at same
    obtain ⟨node, single, read⟩ := List.map_eq_singleton_iff.mp same
    obtain ⟨v, untyped, made⟩ := (Yaml.untyped_ok_iff ..).mp read
    obtain rfl := (Value.toJson_eq_text_iff v s).mp made
    exact ⟨node, single, untyped⟩
  · rintro ⟨node, single, read⟩
    have told : untyped node = .ok (told s) := (Yaml.untyped_ok_iff ..).mpr ⟨_, read, rfl⟩
    rw [single, List.map_singleton, told] at same
    obtain ⟨outcome, once, isTold⟩ := List.map_eq_singleton_iff.mp same.symm
    rw [once, Except.ok.inj isTold]

include found

/-- Every field but metadata has a value with texts as its keys. -/
theorem valued_of_reads {a k : String} (version : given outcomes "apiVersion" = [told a])
    (kind : given outcomes "kind" = [told k]) : ∀ f ∈ labelled entries, f.1 ≠ "metadata" →
      ∃ value, f.2.readUntyped = .ok value ∧ value.Named := by
  -- A field other than metadata is among those that are read untyped, the two types included.
  intro f member other
  obtain ⟨v, listed, -, read⟩ := reads.exists_of_mem (mem_without.mpr ⟨member, by simpa using other⟩)
  obtain ⟨value, untyped, made⟩ := (Yaml.untyped_ok_iff ..).mp read
  -- The value has JSON, as a text of the type or as one of the other values.
  have json : ∃ json, v.2 = .ok json := by
    by_cases isType : v.1 ∈ ["apiVersion", "kind"]
    · have among := mem_given listed
      rcases List.mem_pair.mp isType with same | same
      · rw [same, version, List.mem_singleton] at among
        exact ⟨.text a, among⟩
      · rw [same, kind, List.mem_singleton] at among
        exact ⟨.text k, among⟩
    · obtain ⟨w, -, -, same⟩ := found.exists_of_mem (mem_without.mpr ⟨listed, isType⟩)
      exact ⟨w.2, same⟩
  obtain ⟨json, same⟩ := json
  exact ⟨value, untyped, value.toJson_ok_iff.mp ⟨json, made.trans same⟩⟩

/-- Sorting keeps what the document gives last under every other name. -/
theorem keeps_of_reads {name : String} (other : name ∉ ["metadata", "apiVersion", "kind"]) :
    Keeps entries (Json.sortEntries values) name := by
  -- No field of that name is left out, first as metadata and then as a part of the type.
  rw [List.mem_cons, not_or] at other
  have kept : (given (labelled entries) name).map untyped =
      (given values name).map fun json => .ok (.ok json) := by
    have first := reads.given name
    have second := found.given name
    rw [given_without (by simpa using other.1)] at first
    rw [given_without other.2, List.map_id] at second
    rw [first, second, List.map_map]
    rfl
  have last := congrArg List.getLast? kept
  rw [List.getLast?_map, List.getLast?_map] at last
  rw [Keeps, lookup_reverse, Json.lookup_sortEntries, lookup_reverse]
  cases there : (given (labelled entries) name).getLast? with
  | none =>
    rw [there] at last
    exact Option.map_eq_none_iff.mp last.symm
  | some node =>
    rw [there] at last
    obtain ⟨json, found, same⟩ := Option.map_eq_some_iff.mp last.symm
    obtain ⟨value, read, made⟩ := (Yaml.untyped_ok_iff ..).mp same.symm
    exact ⟨value, json, read, Value.shows_of_toJson made, found⟩

/-- Nothing is kept under the names that are set apart. -/
theorem apart_of_reads {name : String} (member : name ∈ ["metadata", "apiVersion", "kind"]) :
    (Json.sortEntries values).lookup name = none := by
  -- A name that is set apart once is not among the fields that are left, whichever it is.
  have second := found.given name
  have left : given (without ["apiVersion", "kind"] outcomes) name = [] := by
    rcases List.mem_cons.mp member with rfl | isType
    · -- Metadata has been set apart before.
      rw [given_without (by decide)]
      have first := reads.given "metadata"
      rw [given_without_mem (by decide)] at first
      exact List.map_eq_nil_iff.mp first.symm
    · exact given_without_mem isType outcomes
  rw [left] at second
  rw [Json.lookup_sortEntries, lookup_reverse, List.map_eq_nil_iff.mp second.symm]
  rfl

end Reads

/-- A document that is parsed has what the manifest has. -/
theorem written_of_parse {document : String} {m : Manifest} (accepted : parse document = .ok m) :
    ∃ entries, Written document entries m := by
  -- Everything that a manifest has of its document is known from the steps in which it is read.
  obtain ⟨decoded, -⟩ := parse_ok_iff.mp accepted
  obtain ⟨reads, complete⟩ := (Yaml.decode_ok_iff ..).mp decoded
  obtain ⟨entries, isMap, keyed, held, takes, metadata, outcomes, reads, version, kind, values,
    found, fields⟩ := read_ok_iff.mp reads
  refine ⟨entries, ⟨⟨?_, keyed, ?_, valued_of_reads reads found version kind⟩, ?_, ?_, ?_, ?_, ?_⟩⟩
  · exact (Yaml.decode_ok_iff ..).mpr ⟨isMap, complete⟩
  · exact (givesMetadata_iff ..).mpr ⟨held, takes, metadata⟩
  · exact (tells_iff reads (by decide) _).mp version
  · exact (tells_iff reads (by decide) _).mp kind
  · intro name other
    rw [fields]
    exact keeps_of_reads reads found other
  · intro name member
    rw [fields]
    exact apart_of_reads reads found member
  · rw [fields]
    exact (Json.sorted_sortEntries values).names

/-- A document is parsed exactly when it is acceptable. -/
theorem acceptable_iff (document : String) : (∃ m, parse document = .ok m) ↔ Acceptable document := by
  -- Both directions go through the conditions under which the reader of fields succeeds.
  constructor
  · rintro ⟨m, accepted⟩
    obtain ⟨entries, written⟩ := written_of_parse accepted
    obtain ⟨-, version, kind, named⟩ := parse_ok_iff.mp accepted
    exact ⟨entries, m.metadata, written.decodes, ⟨_, written.version, version⟩,
      ⟨_, written.kind, kind⟩, named⟩
  · rintro ⟨entries, metadata, decodes, ⟨a, tellsVersion, version⟩, ⟨k, tellsKind, kind⟩, named⟩
    obtain ⟨isMap, complete⟩ := (Yaml.decode_ok_iff ..).mp decodes.whole
    obtain ⟨held, takes, same⟩ := (givesMetadata_iff ..).mp decodes.metadata
    -- Every field but metadata can be read, and what is read of it has JSON.
    have valued : ∀ f ∈ without ["metadata"] (labelled entries),
        ∃ value, f.2.readUntyped = .ok value ∧ value.Named := by
      intro f member
      obtain ⟨member, other⟩ := mem_without.mp member
      exact decodes.valued f member (by simpa using other)
    obtain ⟨outcomes, reads⟩ : ∃ outcomes,
        ReadAs untyped (without ["metadata"] (labelled entries)) outcomes := by
      refine exists_readAs fun f member => ?_
      obtain ⟨value, read, -⟩ := valued f member
      exact ⟨_, (Yaml.untyped_ok_iff ..).mpr ⟨value, read, rfl⟩⟩
    obtain ⟨values, found⟩ : ∃ values,
        ReadAs id (without ["apiVersion", "kind"] outcomes) values := by
      refine exists_readAs fun v member => ?_
      obtain ⟨f, listed, -, read⟩ := reads.of_mem (mem_without.mp member).1
      obtain ⟨value, untyped, named⟩ := valued f listed
      obtain ⟨_, again, made⟩ := (Yaml.untyped_ok_iff ..).mp read
      obtain rfl := Except.ok.inj (untyped.symm.trans again)
      obtain ⟨json, there⟩ := value.toJson_ok_iff.mpr named
      exact ⟨json, made.symm.trans there⟩
    refine ⟨⟨a, k, metadata, Json.sortEntries values⟩, parse_ok_iff.mpr ⟨?_, version, kind, named⟩⟩
    refine (Yaml.decode_ok_iff ..).mpr ⟨read_ok_iff.mpr ?_, complete⟩
    exact ⟨entries, isMap, decodes.keyed, held, takes, same, outcomes, reads,
      (tells_iff reads (by decide) a).mpr tellsVersion, (tells_iff reads (by decide) k).mpr tellsKind,
      values, found, rfl⟩

end Manifest

end CsiOperator
