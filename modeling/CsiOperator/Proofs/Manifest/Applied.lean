import CsiOperator.Proofs.Api.Apply
import CsiOperator.Proofs.Api.Target
import CsiOperator.Proofs.Json.Merge
import CsiOperator.Proofs.Manifest.Acceptance
import CsiOperator.Proofs.Resource.Type

/-! What is sent for a manifest is what its document says. -/

namespace CsiOperator

open Api (Reply Request Target collection converse)
open Decode
open Yaml (Tree Value)

namespace Metadata

/-- Written metadata shows the name and the namespace. -/
theorem toJson_shows (m : Metadata) : m.toJson.get? "name" = m.name.map .text ∧
    m.toJson.get? "namespace" = m.space.map .text := by
  -- Metadata is written as a record, which shows the fields that are there.
  rw [toJson, Json.get?_record (by simp), Json.get?_record (by simp)]
  exact ⟨rfl, rfl⟩

end Metadata

namespace Manifest

/-- The parameters of a request by which an object is applied by force. -/
def byForce : String :=
  "&force=true&fieldManager=" ++ Api.fieldManager

/-- The request that applies an object by force at a target. -/
def forced (target : Target) (object : Json) : Request :=
  ⟨.patch, target, some "application/apply-patch+yaml", some object⟩

/-- The path of an object in the API. -/
def path (m : Manifest) : String :=
  collection m.type m.metadata.space ++ "/" ++ m.metadata.anyName

/-- A path can be requested: all its characters may stand in one, and it is not too long. -/
def Requestable (path : String) : Prop :=
  -- The parameters count for the length, although they are always the same.
  (∀ c ∈ path.toList, Target.inPath c) ∧
    (path ++ ("?" ++ byForce)).utf8ByteSize ≤ Target.maxBytes

/-- What comes of applying an object at a path. -/
structure AppliesTo (path : String) (object : Json)
    (applied : Except Failure Unit × List Request) : Prop where
  /-- At most one request is sent. -/
  once : applied.2.length ≤ 1
  /-- It applies the object by force, at the part of the path before any mark that ends one. -/
  only : ∀ request ∈ applied.2, ∃ target, request = forced target object ∧
    target.path.toList = path.toList.takeWhile Target.staysInPath
  /-- A path that can be requested is requested as it is. -/
  sent : Requestable path → applied.2 = [forced ⟨path, byForce⟩ object]
  /-- Nothing is sent for a path that cannot be requested, unless a mark ends it early. -/
  unsent : (∀ c ∈ path.toList, Target.staysInPath c) → ¬ Requestable path →
    applied.2 = [] ∧ ∃ failure, applied.1 = .error failure

/-- A manifest with a name is applied at its path. -/
theorem request_eq {m : Manifest} {name : String} (named : m.metadata.name = some name)
    (nonempty : name ≠ "") :
    m.request = (Target.ofText (m.path ++ ("?" ++ byForce))).map (forced · m.toJson) := by
  -- The name passes the check, so that only the target can be wrong.
  have isName : m.metadata.anyName = name := by rw [Metadata.anyName, named]; rfl
  have addressed : Request.addressed m.metadata.anyName = .ok () := by
    rw [Request.addressed, isName, if_neg (by simpa using nonempty)]
  have parameters : "?&force=true&fieldManager=" ++ Api.fieldManager = "?" ++ byForce := by decide
  rw [request, Request.apply, addressed, Failure.ok_bind, parameters]
  show (Target.ofText (m.path ++ ("?" ++ byForce)) >>= fun target => .ok (forced target m.toJson)) = _
  cases Target.ofText (m.path ++ ("?" ++ byForce)) <;> rfl

/-- A path without a mark is requested as it is if it can be requested, and otherwise not at all. -/
theorem ofText_byForce {path : String} (plain : ∀ c ∈ path.toList, Target.staysInPath c) :
    (Requestable path → Target.ofText (path ++ ("?" ++ byForce)) = .ok ⟨path, byForce⟩) ∧
      (¬ Requestable path → ∃ cause, Target.ofText (path ++ ("?" ++ byForce)) = .error cause) := by
  -- The parameters are always allowed, which leaves the characters of the path and the length.
  have unmarked : byForce.toList.all (· != '#') = true := by decide
  have allowed : byForce.toList.all Target.inQuery = true := by decide
  rw [Target.ofText_plain plain (List.all_eq_true.mp unmarked), allowed, Bool.and_true]
  constructor
  · rintro ⟨inPath, short⟩
    rw [if_neg (Nat.not_lt.mpr short), if_pos (List.all_eq_true.mpr inPath)]
  · intro not
    split
    · exact ⟨_, rfl⟩
    · rename_i short
      rw [if_neg fun inPath => not ⟨List.all_eq_true.mp inPath, Nat.not_lt.mp short⟩]
      exact ⟨_, rfl⟩

/-- Nothing else comes of an application for which there is no request. -/
theorem AppliesTo.of_error {path : String} {cause : ApiFailure} (object : Json) (failure : Failure)
    (made : Target.ofText (path ++ ("?" ++ byForce)) = .error cause) :
    AppliesTo path object (.error failure, []) := by
  -- A path that can be requested would have a request.
  refine ⟨Nat.zero_le 1, by simp, ?_, fun _ _ => ⟨rfl, failure, rfl⟩⟩
  intro requestable
  have plain : ∀ c ∈ path.toList, Target.staysInPath c := fun c member =>
    Target.staysInPath_of_inPath (requestable.1 c member)
  rw [(ofText_byForce plain).1 requestable] at made
  cases made

/-- One request is all that comes of an application, whatever the reply. -/
theorem AppliesTo.of_ok {path : String} {target : Target} (object : Json)
    (outcome : Except Failure Unit) (made : Target.ofText (path ++ ("?" ++ byForce)) = .ok target) :
    AppliesTo path object (outcome, [forced target object]) := by
  -- The target has the path up to a mark, and all of it if there is none.
  refine ⟨Nat.le_refl 1, ?_, ?_, ?_⟩
  · intro request member
    exact ⟨target, List.mem_singleton.mp member, Target.path_of_ofText made⟩
  · intro requestable
    have plain : ∀ c ∈ path.toList, Target.staysInPath c := fun c member =>
      Target.staysInPath_of_inPath (requestable.1 c member)
    rw [(ofText_byForce plain).1 requestable] at made
    rw [← Except.ok.inj made]
  · intro plain not
    obtain ⟨cause, unmade⟩ := (ofText_byForce plain).2 not
    rw [unmade] at made
    cases made

/-- The body of a request for a manifest has the fields of its document. -/
structure Carries (entries : List (Tree × Tree)) (metadata : Metadata)
    (body : List (String × Json)) : Prop where
  /-- No two fields have one name. -/
  distinct : (body.map (·.1)).Nodup
  /-- Every field but metadata is that of the document, and there is no other one. -/
  fields : ∀ name, name ≠ "metadata" → Keeps entries body name
  /-- The metadata is that of the document as far as it has been read. -/
  identity : body.lookup "metadata" = some metadata.toJson
  /-- It has the name of the document. -/
  name : metadata.toJson.get? "name" = metadata.name.map .text
  /-- It has the namespace of the document, if there is one. -/
  space : metadata.toJson.get? "namespace" = metadata.space.map .text

/-- A text that is told is kept as it is. -/
theorem Tells.keeps {entries : List (Tree × Tree)} {name s : String} (tells : Tells entries name s)
    {body : List (String × Json)} (shown : body.lookup name = some (.text s)) :
    Keeps entries body name := by
  -- There is one node with this name, so it is also the last one.
  obtain ⟨node, single, read⟩ := tells
  rw [Keeps, lookup_reverse, single]
  exact ⟨.text s, .text s, read, .text s, shown⟩

/-- What is written for a manifest has the fields of its document. -/
theorem Written.carries {document : String} {entries : List (Tree × Tree)} {m : Manifest}
    (written : Written document entries m) :
    ∃ body, m.toJson = .object body ∧ Carries entries m.metadata body := by
  -- The type and the metadata stand before the other fields, among which they do not come again.
  obtain ⟨name, space⟩ := m.metadata.toJson_shows
  refine ⟨_, rfl, ?_, ?_, rfl, name, space⟩
  · -- None of the three fields that stand first is among the others.
    have fresh (key : String) (member : key ∈ ["metadata", "apiVersion", "kind"]) :
        key ∉ m.fields.map (·.1) := by
      intro again
      obtain ⟨field, listed, rfl⟩ := List.mem_map.mp again
      have other := List.lookup_eq_none_iff.mp (written.apart field.1 member) field listed
      exact bne_iff_ne.mp other rfl
    show ("apiVersion" :: "kind" :: "metadata" :: m.fields.map (·.1)).Nodup
    have version := fresh "apiVersion" (by decide)
    have kind := fresh "kind" (by decide)
    have metadata := fresh "metadata" (by decide)
    simp only [List.nodup_cons, List.mem_cons, version, kind, metadata, written.distinct, or_false,
      not_false_eq_true, and_true]
    decide
  · intro name other
    by_cases isVersion : name = "apiVersion"
    · subst isVersion
      exact written.version.keeps rfl
    by_cases isKind : name = "kind"
    · subst isKind
      exact written.kind.keeps rfl
    · -- Any other field is among those that stand last.
      have kept := written.others name (by simp [other, isVersion, isKind])
      have later : ([("apiVersion", Json.text m.apiVersion), ("kind", .text m.kind),
          ("metadata", m.metadata.toJson)] ++ m.fields).lookup name = m.fields.lookup name := by
        rw [List.cons_append, List.cons_append, List.cons_append, List.nil_append,
          Json.lookup_cons_eq, if_neg isVersion, Json.lookup_cons_eq, if_neg isKind,
          Json.lookup_cons_eq, if_neg other]
      rw [Keeps, later]
      exact kept

/-- The name and the namespace are what is given last under these names in the metadata. -/
theorem Decodes.identity {document : String} {entries : List (Tree × Tree)} {metadata : Metadata}
    (decodes : Decodes document entries metadata) :
    ReadPart (nullable text) (inMetadata entries "name") none metadata.name ∧
      ReadPart (nullable text) (inMetadata entries "namespace") none metadata.space := by
  -- Metadata is read as a record, whose fields are held by their last entries.
  obtain ⟨names, -, spaces, -⟩ := Metadata.texts_hold (ν := Tree)
  rcases decodes.metadata with ⟨absent, rfl⟩ | ⟨node, single, reads⟩
  · -- Without metadata there is neither.
    simp only [inMetadata, absent]
    exact ⟨rfl, rfl⟩
  · obtain ⟨inner, isMap, reads⟩ := (Failure.bind_ok_iff ..).mp reads
    replace isMap : node.readEntries = .ok inner := isMap
    simp only [inMetadata, single, isMap]
    exact ⟨readLatest_labelled names reads, readLatest_labelled spaces reads⟩

section

variable [Wording]

/-- A manifest with a name is applied by one request for its path, if there is one. -/
theorem applyManifest_appliesTo {m : Manifest} {name : String}
    (named : m.metadata.name = some name) (nonempty : name ≠ "") (replies : Nat → Reply) :
    AppliesTo m.path m.toJson (converse replies (Api.applyManifest m)) := by
  -- The reply to the request decides nothing but the outcome.
  rw [Api.applyManifest_eq, request_eq named nonempty]
  cases made : Target.ofText (m.path ++ ("?" ++ byForce)) with
  | error cause => exact .of_error _ _ made
  | ok target => exact .of_ok _ _ made

/--
A document is rejected exactly when it is no object with a type and a name, and any other one is applied as
it is written.

The path has the group and the version that the API version names, the plural of the kind, and the namespace
and the name of the metadata. The body has the fields of the document, each with its value. One request is
sent for that path, whatever the reply, if the path can be requested.
-/
theorem applied_as_written (document : String) :
    ((∃ failure, parse document = .error failure) ↔ ¬ Acceptable document) ∧
    ∀ m, parse document = .ok m → ∃ entries body group version name,
      Written document entries m ∧ m.metadata.name = some name ∧ name ≠ "" ∧
      ReadPart (nullable text) (inMetadata entries "name") none m.metadata.name ∧
      ReadPart (nullable text) (inMetadata entries "namespace") none m.metadata.space ∧
      m.toJson = .object body ∧ Carries entries m.metadata body ∧
      ResourceType.Names m.apiVersion group version ∧
      m.path = collection ⟨group, version, m.kind, ResourceType.pluralOf m.kind⟩
        m.metadata.space ++ "/" ++ name ∧
      ∀ replies, AppliesTo m.path m.toJson (converse replies (Api.applyManifest m)) := by
  -- The first half is the lemma on acceptance, and the others follow what parsing has written.
  constructor
  · -- A document that is not parsed has a failure instead.
    rw [← acceptable_iff]
    cases parse document <;> simp
  · intro m accepted
    obtain ⟨entries, written⟩ := written_of_parse accepted
    obtain ⟨-, -, -, name, named, nonempty⟩ := parse_ok_iff.mp accepted
    obtain ⟨body, isBody, carries⟩ := written.carries
    obtain ⟨hasName, hasSpace⟩ := written.decodes.identity
    have isName : m.metadata.anyName = name := by
      rw [Metadata.anyName, named]
      rfl
    refine ⟨entries, body, m.type.group, m.type.version, name, written, named, nonempty, hasName,
      hasSpace, isBody, carries, ResourceType.names_ofKind .., ?_,
      applyManifest_appliesTo named nonempty⟩
    rw [path, isName]
    rfl

-- A Deployment in a namespace, whose type is in a group.
example : (parse ("apiVersion: apps/v1\nkind: Deployment\n" ++
    "metadata:\n  namespace: b\n  name: a\n")).toOption.map path =
      some "/apis/apps/v1/namespaces/b/deployments/a" := by decide +kernel

/-- The request for a manifest is all that is sent for it. -/
theorem applyManifest_sent (m : Manifest) (replies : Nat → Reply) :
    (converse replies (Api.applyManifest m)).2 = m.request.toOption.toList := by
  -- The reply decides only about the outcome.
  rw [Api.applyManifest_eq]
  cases m.request <;> rfl

end

/-- A value is the absent one. -/
def isNull : Json → Bool
  | .null => true
  | _ => false

/-- There may be no request for a manifest, or one for less than its name, and JSON lacks some numbers. -/
theorem not_applied_as_written :
    let _ : Wording := .brief
    let document (name : String) : String :=
      "apiVersion: v1\nkind: ConfigMap\nmetadata:\n  name: '" ++ name ++ "'\nx: .inf\n"
    (∃ m, parse (document "a b") = .ok m ∧
      ∀ replies, (converse replies (Api.applyManifest m)).2 = []) ∧
    ∃ m, parse (document "a#b") = .ok m ∧ m.fields.lookup "x" = some .null ∧
      ∀ replies, (converse replies (Api.applyManifest m)).2.map (·.target.path) =
        ["/api/v1/configmaps/a"] := by
  intro _ document
  -- A blank keeps the request from being sent, and a number sign cuts the path behind it, so each
  -- document is evaluated as far as its request.
  have blank : (parse (document "a b")).toOption.map (·.request.isOk) = some false := by
    decide +kernel
  have marked : (parse (document "a#b")).toOption.map
      (fun m => ((m.fields.lookup "x").map isNull, m.request.toOption.map (·.target.path))) =
        some (some true, some "/api/v1/configmaps/a") := by
    decide +kernel
  constructor
  · obtain ⟨m, parsed, unmade⟩ := Option.map_eq_some_iff.mp blank
    refine ⟨m, (Failure.toOption_eq_some_iff ..).mp parsed, fun replies => ?_⟩
    rw [applyManifest_sent]
    cases made : m.request with
    | error cause => rfl
    | ok request => simp [made, Except.isOk, Except.toBool] at unmade
  · obtain ⟨m, parsed, found⟩ := Option.map_eq_some_iff.mp marked
    obtain ⟨null, sent⟩ := Prod.mk.inj found
    refine ⟨m, (Failure.toOption_eq_some_iff ..).mp parsed, ?_, fun replies => ?_⟩
    · obtain ⟨json, shown, null⟩ := Option.map_eq_some_iff.mp null
      cases json with
      | null => exact shown
      | _ => cases null
    · rw [applyManifest_sent, ← Option.toList_map, sent]
      rfl

end Manifest

end CsiOperator
