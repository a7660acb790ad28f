import CsiOperator.Proofs.Manifest.Applied

/-! The API version of a manifest, in the path of its request and in the body. -/

namespace CsiOperator.Manifest

open Api (Target)

/-- The path of a manifest begins with the API version of its type. -/
theorem path_begins (m : Manifest) : ∃ rest, m.path =
    (if m.type.group.isEmpty then "/api/" else "/apis/") ++ m.type.apiVersion ++ "/" ++ rest := by
  -- The path is put together from the left, so the rest is whatever follows the version.
  simp only [path, Api.collection, String.append_assoc]
  exact ⟨_, rfl⟩

/-- The type of a manifest and what is sent for it agree about the API version and the kind. -/
structure Agrees (document : String) (m : Manifest) : Prop where
  /-- The API version and the kind are those that the document tells. -/
  told : ∃ entries, Yaml.decode Yaml.Tree.readEntries document = .ok entries ∧
    Tells entries "apiVersion" m.apiVersion ∧ Tells entries "kind" m.kind
  /-- The type is of that kind. -/
  kind : m.type.kind = m.kind
  /-- Its group and version put together are the API version, unless that begins with a slash. -/
  version : (∀ rest, m.apiVersion ≠ "/" ++ rest) → m.type.apiVersion = m.apiVersion
  /-- A slash at the beginning stands for the core group. -/
  spelled : ∀ rest, m.apiVersion = "/" ++ rest → m.type.group = "" ∧ m.type.apiVersion = rest
  /-- The body has the API version and the kind. -/
  body : m.toJson.get? "apiVersion" = some (.text m.apiVersion) ∧
    m.toJson.get? "kind" = some (.text m.kind)
  /-- The path has the API version of the type, unless there is a mark in that which ends a path. -/
  path : ∀ request, m.request = .ok request → request.body = some m.toJson ∧
    ((∀ c ∈ m.apiVersion.toList, Target.staysInPath c) → ∃ rest, request.target.path =
      (if m.type.group.isEmpty then "/api/" else "/apis/") ++ m.type.apiVersion ++ "/" ++ rest)

/-- A text that nothing in it ends stands at the beginning of what is left of a longer one. -/
theorem begins_of_takeWhile {p : Char → Bool} {front rest cut : String}
    (stays : ∀ c ∈ front.toList, p c) (same : cut.toList = (front ++ rest).toList.takeWhile p) :
    ∃ left, cut = front ++ left := by
  -- Taking characters while they stay takes all of the front before anything of the rest.
  refine ⟨String.ofList (rest.toList.takeWhile p), String.toList_inj.mp ?_⟩
  rw [same, String.toList_append, List.takeWhile_append_of_pos stays, String.toList_append,
    String.toList_ofList]

/-- A type has no other API version than a manifest but for a slash in front of it. -/
theorem version_or_spelled (m : Manifest) : m.type.apiVersion = m.apiVersion ∨
    m.type.group = "" ∧ m.apiVersion = "/" ++ m.type.apiVersion := by
  -- Putting the group and the version together leaves out nothing but the slash of the core group.
  have names := ResourceType.names_ofKind m.apiVersion m.kind
  rcases names.rejoined m.kind (ResourceType.pluralOf m.kind) with same | ⟨core, spelled⟩
  · exact .inl same.symm
  · refine .inr ⟨core, spelled.trans (congrArg ("/" ++ ·) ?_)⟩
    rw [ResourceType.apiVersion, type, core]
    rfl

/-- A slash in front of an API version stands for the core group. -/
theorem core_of_spelled {m : Manifest} {rest : String} (spelled : m.apiVersion = "/" ++ rest) :
    m.type.group = "" ∧ m.type.apiVersion = rest := by
  -- Nothing stands before the first slash.
  have alone : ResourceType.Names m.apiVersion "" rest := by
    rw [spelled, ← String.empty_append (s := "/" ++ rest)]
    exact .grouped rest (by decide)
  obtain ⟨group, version⟩ := (ResourceType.names_ofKind m.apiVersion m.kind).unique alone
  replace group : m.type.group = "" := group
  refine ⟨group, ?_⟩
  rw [ResourceType.apiVersion, group]
  exact version

/-- The path of the request for a manifest begins with the API version of its type. -/
theorem path_of_request {m : Manifest} {target : Target}
    (made : Target.ofText (m.path ++ ("?" ++ byForce)) = .ok target)
    (unmarked : ∀ c ∈ m.apiVersion.toList, Target.staysInPath c) : ∃ rest, target.path =
      (if m.type.group.isEmpty then "/api/" else "/apis/") ++ m.type.apiVersion ++ "/" ++ rest := by
  -- The target has the path up to a mark, which comes after the API version if at all.
  obtain ⟨rest, begins⟩ := path_begins m
  have cut := Target.path_of_ofText made
  rw [begins] at cut
  refine begins_of_takeWhile ?_ cut
  -- Neither the root of the path nor what is in the API version ends the path.
  have root : (if m.type.group.isEmpty then "/api/" else "/apis/").toList.all
      Target.staysInPath = true := by
    split <;> decide
  have version : ∀ c ∈ m.type.apiVersion.toList, Target.staysInPath c := by
    rcases version_or_spelled m with same | ⟨-, spelled⟩
    · rwa [same]
    · intro c member
      refine unmarked c ?_
      rw [spelled, String.toList_append]
      exact List.mem_append_right _ member
  intro c member
  rw [String.toList_append, String.toList_append] at member
  rcases List.mem_append.mp member with member | last
  · rcases List.mem_append.mp member with member | member
    · exact List.all_eq_true.mp root c member
    · exact version c member
  · obtain rfl : c = '/' := List.mem_singleton.mp last
    decide

/--
The path of a manifest and its body name one API version and one kind, and two manifests with different API
versions have different groups or versions, as long as the core group is not spelled out by a slash.
-/
theorem versions_agree {document : String} {m : Manifest} (accepted : parse document = .ok m) :
    Agrees document m ∧ ∀ other n, parse other = .ok n →
      (m.type.group = n.type.group ∧ m.type.version = n.type.version ↔
        m.apiVersion = n.apiVersion ∨ ResourceType.Spelled m.apiVersion n.apiVersion ∨
          ResourceType.Spelled n.apiVersion m.apiVersion) := by
  -- The type is derived from the texts that the document tells, and the body holds the same texts.
  obtain ⟨entries, written⟩ := written_of_parse accepted
  obtain ⟨-, -, -, name, named, nonempty⟩ := parse_ok_iff.mp accepted
  refine ⟨⟨⟨entries, written.decodes.whole, written.version, written.kind⟩, rfl, ?_,
    fun rest => core_of_spelled, ⟨rfl, rfl⟩, ?_⟩, ?_⟩
  · intro plain
    exact (version_or_spelled m).resolve_right fun ⟨_, spelled⟩ => plain _ spelled
  · intro request made
    rw [request_eq named nonempty] at made
    cases target : Target.ofText (m.path ++ ("?" ++ byForce)) with
    | error cause =>
      rw [target] at made
      cases made
    | ok found =>
      rw [target] at made
      obtain rfl := Except.ok.inj made
      exact ⟨rfl, path_of_request target⟩
  · intro other n _
    exact (ResourceType.names_ofKind m.apiVersion m.kind).same_iff
      (ResourceType.names_ofKind n.apiVersion n.kind)

/-- A document with some API version. -/
def versioned (version : String) : String :=
  "apiVersion: '" ++ version ++ "'\nkind: ConfigMap\nmetadata:\n  name: a\n"

/-- A version in a group and the same one in the core group are versions of different groups. -/
theorem versions_agree_grouped : ∃ m n, parse (versioned "apps/v1") = .ok m ∧
    parse (versioned "v1") = .ok n ∧ Agrees (versioned "apps/v1") m ∧
    ¬ (m.type.group = n.type.group ∧ m.type.version = n.type.version) := by
  -- Both documents are evaluated as far as their versions.
  have grouped : (parse (versioned "apps/v1")).toOption.map (·.apiVersion) = some "apps/v1" := by
    decide +kernel
  have core : (parse (versioned "v1")).toOption.map (·.apiVersion) = some "v1" := by
    decide +kernel
  obtain ⟨m, parsed, version⟩ := Option.map_eq_some_iff.mp grouped
  obtain ⟨n, parsed', version'⟩ := Option.map_eq_some_iff.mp core
  rw [Failure.toOption_eq_some_iff] at parsed parsed'
  -- Of the second document nothing but the text of its API version matters.
  obtain ⟨agrees, apart⟩ := versions_agree parsed
  refine ⟨m, n, parsed, parsed', agrees, ?_⟩
  rw [apart _ n parsed', version, version']
  rintro (same | ⟨-, same⟩ | ⟨-, same⟩)
  all_goals exact absurd same (by decide)

/-- The core group may be spelled out, and a mark may end the path within the API version. -/
theorem versions_differ :
    (∃ m n, parse (versioned "/v1") = .ok m ∧ parse (versioned "v1") = .ok n ∧
      m.apiVersion = "/v1" ∧ m.type.apiVersion = "v1" ∧ n.apiVersion = "v1" ∧
      m.type.group = n.type.group ∧ m.type.version = n.type.version) ∧
    ∃ m, parse (versioned "v1?x") = .ok m ∧ m.apiVersion = "v1?x" ∧
      m.request.toOption.map (·.target.path) = some "/api/v1" := by
  -- Both documents are evaluated as far as the types that they name.
  have spelled : (parse (versioned "/v1")).toOption.map
      (fun m => (m.apiVersion, m.type.apiVersion, m.type.group, m.type.version)) =
        some ("/v1", "v1", "", "v1") := by
    decide +kernel
  have alone : (parse (versioned "v1")).toOption.map
      (fun m => (m.apiVersion, m.type.group, m.type.version)) = some ("v1", "", "v1") := by
    decide +kernel
  have marked : (parse (versioned "v1?x")).toOption.map
      (fun m => (m.apiVersion, m.request.toOption.map (·.target.path))) =
        some ("v1?x", some "/api/v1") := by
    decide +kernel
  obtain ⟨m, parsed, same⟩ := Option.map_eq_some_iff.mp spelled
  obtain ⟨n, parsed', same'⟩ := Option.map_eq_some_iff.mp alone
  obtain ⟨o, parsed'', same''⟩ := Option.map_eq_some_iff.mp marked
  rw [Failure.toOption_eq_some_iff] at parsed parsed' parsed''
  simp only [Prod.mk.injEq] at same same' same''
  obtain ⟨version, rejoined, group, inner⟩ := same
  obtain ⟨version', group', inner'⟩ := same'
  exact ⟨⟨m, n, parsed, parsed', version, rejoined, version', group.trans group'.symm,
    inner.trans inner'.symm⟩, o, parsed'', same''⟩

end CsiOperator.Manifest
