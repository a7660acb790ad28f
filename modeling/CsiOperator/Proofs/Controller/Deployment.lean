import CsiOperator.Controller.Deployment
import CsiOperator.Proofs.Api.Apply
import CsiOperator.Proofs.Failure

/-! A Deployment asset is checked as a whole before any of its documents is applied. -/

namespace CsiOperator.Controller

open Api (Reply Request converse requestFor Ended)

/-- What an asset holds when it can be loaded: Deployments, at least one and nothing else. -/
def Validated (assets : AssetSource) (asset : Option String) (manifests : List Manifest) : Prop :=
  -- Each document of the asset is one of the manifests, in the same order.
  ∃ name text, asset = some name ∧ assets name = .ok text ∧ manifests ≠ [] ∧
    (Manifest.documents text).map Manifest.parse = manifests.map .ok ∧
    ∀ m ∈ manifests, m.kind = deploymentKind

/-- A check passes when every document is a manifest of a Deployment. -/
theorem checkDeployments_ok_iff (controller asset : String) (documents : List String) :
    checkDeployments controller asset documents = .ok () ↔ ∃ manifests : List Manifest,
      documents.map Manifest.parse = manifests.map .ok ∧
        ∀ m ∈ manifests, m.kind = deploymentKind := by
  -- The documents are checked in order, and the first one that is wrong ends the check.
  induction documents with
  | nil => exact ⟨fun _ => ⟨[], by simp⟩, fun _ => rfl⟩
  | cons document rest ih =>
    -- The first document has to be a Deployment, and then the others decide.
    have first : checkDeployments controller asset (document :: rest) = .ok () ↔
        ∃ m, Manifest.parse document = .ok m ∧ m.kind = deploymentKind ∧
          checkDeployments controller asset rest = .ok () := by
      simp only [checkDeployments, Failure.bind_ok_iff]
      refine exists_congr fun m => and_congr_right fun _ => ?_
      by_cases kind : m.kind = deploymentKind <;>
        simp [Manifest.type, ResourceType.ofKind, kind, Failure.throw_bind_ok_iff]
    rw [first]
    constructor
    · rintro ⟨m, parsed, kind, passed⟩
      obtain ⟨manifests, all, kinds⟩ := ih.mp passed
      exact ⟨m :: manifests, by simp [parsed, all], by simpa [kind] using kinds⟩
    · rintro ⟨manifests, all, kinds⟩
      cases manifests with
      | nil => simp at all
      | cons m others =>
        obtain ⟨parsed, all⟩ := List.cons.inj all
        have ⟨kind, kinds⟩ := List.forall_mem_cons.mp kinds
        exact ⟨m, parsed, kind, ih.mpr ⟨others, all, kinds⟩⟩

/-- An asset is loaded when it is there and has documents, all of which pass the check. -/
theorem loadDeployment_ok_iff (controller : String) (assets : AssetSource) (name text : String) :
    loadDeployment controller assets name = .ok text ↔ assets name = .ok text ∧
      checkDeployments controller name (Manifest.documents text) = .ok () ∧
      Manifest.documents text ≠ [] := by
  -- Loading is three steps, of which the last one looks for documents at all.
  simp only [loadDeployment, Failure.bind_ok_iff]
  constructor
  · rintro ⟨found, loaded, _, passed, last⟩
    by_cases empty : Manifest.documents found = []
    · simp only [empty, List.isEmpty_nil, if_true, Failure.throw_bind_ok_iff] at last
    · have same : found = text := by simpa [empty, Failure.pure_ok_iff] using last
      exact ⟨same ▸ loaded, same ▸ passed, same ▸ empty⟩
  · rintro ⟨loaded, passed, some⟩
    exact ⟨text, loaded, (), passed, by simp [some, Failure.pure_ok_iff]⟩

/-- An asset that is loaded holds Deployments only, and one that is not does not. -/
theorem validated_iff (controller : String) (assets : AssetSource) (name : String) :
    (∃ manifests, Validated assets (some name) manifests) ↔
      ∃ text, loadDeployment controller assets name = .ok text := by
  -- Both sides say the same of the text, once it is there.
  simp only [loadDeployment_ok_iff, checkDeployments_ok_iff]
  constructor
  · rintro ⟨manifests, _, text, same, loaded, some, all, kinds⟩
    cases same
    refine ⟨text, loaded, ⟨manifests, all, kinds⟩, fun none => some ?_⟩
    simpa [none] using all.symm
  · rintro ⟨text, loaded, ⟨manifests, all, kinds⟩, some⟩
    refine ⟨manifests, name, text, rfl, loaded, fun none => some ?_, all, kinds⟩
    simpa [none] using all

/-- A document of a checked asset belongs to the manifest at its place. -/
theorem parsed_getElem? {documents : List String} {manifests : List Manifest}
    (all : documents.map Manifest.parse = manifests.map .ok) {k : Nat} {document : String}
    (found : documents[k]? = some document) :
    ∃ m, manifests[k]? = some m ∧ Manifest.parse document = .ok m := by
  -- The two lists are alike, place by place.
  have both : documents[k]?.map Manifest.parse = manifests[k]?.map .ok := by
    simpa using congrArg (·[k]?) all
  rw [found] at both
  obtain ⟨m, there, parsed⟩ := Option.map_eq_some_iff.mp both.symm
  exact ⟨m, there, parsed.symm⟩

section

variable [Decode.Wording]

/-- A sync applies the text of an asset that is loaded, and does nothing else. -/
theorem syncDeployment_via (controller : String) (assets : AssetSource) (asset : Option String) :
    (syncDeployment controller assets asset).via Api.applyText = match asset with
      | none => .done (.ok ())
      | some name =>
        match loadDeployment controller assets name with
        | .error failure => .done (.error failure)
        | .ok text => Api.applyDocuments (Manifest.documents text) := by
  -- Applying is all that is left of the sync once the asset has been loaded.
  cases asset with
  | none => rfl
  | some name =>
    simp only [syncDeployment]
    cases loadDeployment controller assets name with
    | error failure => rfl
    | ok text => exact Dialogue.bind_done _

/-- The request for a manifest's document is the one that applies its object. -/
theorem requestFor_parsed {document : String} {m : Manifest}
    (parsed : Manifest.parse document = .ok m) :
    (∀ request, requestFor document = .ok request ↔ m.request = .ok request) ∧
      ∀ failure, requestFor document = .error failure ↔
        ∃ cause, m.request = .error cause ∧ m.unapplied cause = failure := by
  -- A document that parses has a request when its manifest has one.
  simp only [requestFor, parsed]
  cases m.request <;> simp

/-- What is sent for the first documents of a checked asset applies its first manifests. -/
theorem requests_validated {documents : List String} {manifests : List Manifest}
    (all : documents.map Manifest.parse = manifests.map .ok) {sent : List Request}
    (requests : sent.map .ok = (documents.take sent.length).map requestFor) :
    sent.map .ok = (manifests.take sent.length).map Manifest.request := by
  -- Requests, documents and manifests are gone through side by side.
  induction sent generalizing documents manifests with
  | nil => rfl
  | cons request later ih =>
    cases documents with
    | nil => simp at requests
    | cons document rest =>
      cases manifests with
      | nil => simp at all
      | cons m others =>
        simp only [List.map_cons, List.length_cons, List.take_succ_cons, List.cons.injEq] at *
        obtain ⟨parsed, all⟩ := all
        obtain ⟨first, requests⟩ := requests
        exact ⟨(((requestFor_parsed parsed).1 request).mp first.symm).symm, ih all requests⟩

/-- The manifests of a checked asset are applied one after another. -/
theorem Validated.sync {assets : AssetSource} {asset : Option String} {manifests : List Manifest}
    (validated : Validated assets asset manifests) (controller : String) :
    ∃ documents, documents.map Manifest.parse = manifests.map .ok ∧
      (syncDeployment controller assets asset).via Api.applyText =
        Api.applyDocuments documents := by
  -- What passes the check has been loaded, and is applied as a whole.
  obtain ⟨name, text, rfl, loaded, some, all, kinds⟩ := validated
  have passed : checkDeployments controller name (Manifest.documents text) = .ok () :=
    (checkDeployments_ok_iff ..).mpr ⟨manifests, all, kinds⟩
  have found : loadDeployment controller assets name = .ok text :=
    (loadDeployment_ok_iff ..).mpr
      ⟨loaded, passed, fun none => some (by simpa [none] using all.symm)⟩
  exact ⟨_, all, by simp only [syncDeployment_via, found]⟩

/-- Without a checked asset nothing is asked, and only the absence of an asset is a success. -/
theorem sync_unvalidated {assets : AssetSource} {asset : Option String}
    (none : ¬ ∃ manifests, Validated assets asset manifests) (controller : String) :
    ∃ outcome, (syncDeployment controller assets asset).via Api.applyText = .done outcome ∧
      (outcome = .ok () ↔ asset = .none) := by
  -- The sync ends before anything is asked, with the failure to load the asset if there is one.
  rw [syncDeployment_via]
  cases asset with
  | none => exact ⟨_, rfl, by simp⟩
  | some name =>
    rw [validated_iff controller] at none
    cases found : loadDeployment controller assets name with
    | error failure => exact ⟨.error failure, by simp [found], by simp⟩
    | ok text => exact absurd ⟨text, found⟩ none

/-- What comes of a checked asset whose manifests are applied one after another. -/
structure Applied (replies : Nat → Reply) (manifests : List Manifest) (sent : List Request)
    (outcome : Except Failure Unit) : Prop where
  /-- Each request applies the next manifest. -/
  requests : sent.map .ok = (manifests.take sent.length).map Manifest.request
  /-- Every request but the last one has been accepted. -/
  accepted : ∀ k, k + 1 < sent.length → (replies k).Accepts
  /-- The manifests that are left come after one that is refused or that has no request. -/
  stopped : sent.length < manifests.length →
    (∃ k, k + 1 = sent.length ∧ ¬ (replies k).Accepts) ∨
      ∃ m cause, manifests[sent.length]? = some m ∧ m.request = .error cause
  /-- All is well when every manifest has been applied and accepted. -/
  succeeded : outcome = .ok () ↔
    sent.length = manifests.length ∧ ∀ k < sent.length, (replies k).Accepts
  /-- A failure is that of one manifest to be applied. -/
  failed : ∀ failure, outcome = .error failure → ∃ m ∈ manifests, ∃ cause,
    failure = m.unapplied cause

/-- The documents of a checked asset end as its manifests do. -/
theorem Applied.of_ended {replies : Nat → Reply} {documents : List String}
    {manifests : List Manifest} (all : documents.map Manifest.parse = manifests.map .ok)
    {sent : List Request} {outcome : Except Failure Unit}
    (requests : sent.map .ok = (documents.take sent.length).map requestFor)
    (ended : Ended replies documents sent outcome) : Applied replies manifests sent outcome := by
  -- Documents and manifests stand side by side, so that each way to end has its manifest.
  have count : documents.length = manifests.length := by simpa using congrArg List.length all
  have requests := requests_validated all requests
  cases ended with
  | applied whole accepts =>
    refine ⟨requests, fun k within => accepts k (by omega), fun left => by omega,
      ⟨fun _ => ⟨by omega, accepts⟩, fun _ => rfl⟩, by simp⟩
  | @unsent document failure accepts next fails =>
    -- The next document is a manifest, so that it fails for want of a request.
    obtain ⟨m, there, parsed⟩ := parsed_getElem? all next
    obtain ⟨cause, made, same⟩ := ((requestFor_parsed parsed).2 failure).mp fails
    have within := (List.getElem?_eq_some_iff.mp there).1
    refine ⟨requests, fun k within => accepts k (by omega), fun _ => .inr ⟨m, cause, there, made⟩,
      ⟨(fun good => by cases good), fun good => by omega⟩, ?_⟩
    rintro failure ⟨⟩
    exact ⟨m, List.mem_of_getElem? there, cause, same.symm⟩
  | @refused k document m cause last accepts next parsed brought =>
    obtain ⟨n, there, again⟩ := parsed_getElem? all next
    obtain rfl : m = n := Except.ok.inj (parsed.symm.trans again)
    have refuses : ¬ (replies k).Accepts := by simp [Reply.Accepts, brought]
    have bad : ∀ good : sent.length = manifests.length ∧ ∀ j < sent.length, (replies j).Accepts,
        False := fun good => refuses (good.2 k (by omega))
    refine ⟨requests, fun j within => accepts j (by omega), fun _ => .inl ⟨k, last.symm, refuses⟩,
      by simpa using bad, ?_⟩
    rintro failure ⟨⟩
    exact ⟨m, List.mem_of_getElem? there, cause, rfl⟩

/--
A Deployment asset is applied only when all of it is in order, and then document by document.

Something is sent exactly when the asset can be loaded, its documents are manifests of Deployments,
at least one, and a request can be made for the first of them.
-/
theorem deployment_applied_when_checked (controller : String) (assets : AssetSource)
    (asset : Option String) (replies : Nat → Reply) :
    let synced := converse replies ((syncDeployment controller assets asset).via Api.applyText)
    let outcome := synced.1
    let sent := synced.2
    (sent ≠ [] ↔ ∃ first others request, Validated assets asset (first :: others) ∧
      first.request = .ok request) ∧
    -- A sync without a request succeeds only where there is no asset.
    (sent = [] → (outcome = .ok () ↔ asset = none)) ∧
    -- Otherwise the manifests are applied in order, and every one of them is a Deployment.
    ∀ manifests, Validated assets asset manifests →
      Applied replies manifests sent outcome ∧
        ∀ m ∈ manifests, m.type.kind = deploymentKind ∧ m.type.plural = "deployments" := by
  -- Either the asset passes the check, and its manifests are applied, or nothing is done.
  intro synced outcome sent
  by_cases checked : ∃ manifests, Validated assets asset manifests
  case neg =>
    -- Nothing is sent at all for an asset that does not pass.
    obtain ⟨reached, whole, success⟩ := sync_unvalidated checked controller
    have shape : synced = (reached, []) := by simp only [synced, whole, Api.converse_done]
    have idle : sent = [] := congrArg Prod.snd shape
    refine ⟨⟨fun some => absurd idle some, ?_⟩, fun _ => ?_, fun manifests validated =>
      absurd ⟨manifests, validated⟩ checked⟩
    · rintro ⟨first, others, -, validated, -⟩
      exact absurd ⟨_, validated⟩ checked
    · rw [← success, show outcome = reached from congrArg Prod.fst shape]
  have applied : ∀ manifests, Validated assets asset manifests →
      Applied replies manifests sent outcome := by
    intro manifests validated
    obtain ⟨documents, all, whole⟩ := validated.sync controller
    have run := Api.applyDocuments_converse replies documents
    rw [← whole] at run
    exact .of_ended all run.1 run.2
  obtain ⟨manifests, validated⟩ := checked
  have run := applied manifests validated
  refine ⟨⟨fun some => ?_, ?_⟩, fun idle => ?_, fun manifests validated =>
    ⟨applied manifests validated, fun m member => ?_⟩⟩
  · -- The first request applies the first manifest.
    obtain ⟨request, later, split⟩ := List.exists_cons_of_ne_nil some
    have requests := run.requests
    rw [split] at requests
    cases manifests with
    | nil => simp at requests
    | cons first others =>
      exact ⟨first, others, request, validated, by simpa [eq_comm] using (List.cons.inj requests).1⟩
  · -- A first manifest that has a request cannot be the one that stops.
    rintro ⟨first, others, request, validated, made⟩ idle
    rcases (applied _ validated).stopped (by simp [idle]) with
      ⟨k, last, -⟩ | ⟨m, cause, there, fails⟩
    · simp [idle] at last
    · simp only [idle, List.length_nil, List.getElem?_cons_zero, Option.some.injEq] at there
      simp [← there, made] at fails
  · -- A checked asset is there, and has manifests that have not been applied.
    obtain ⟨name, text, rfl, -, some, -⟩ := validated
    simp only [run.succeeded, idle, List.length_nil, reduceCtorEq, iff_false]
    rintro ⟨whole, -⟩
    exact some (List.eq_nil_of_length_eq_zero whole.symm)
  · obtain ⟨-, -, -, -, -, -, kinds⟩ := validated
    have kind := kinds m member
    exact ⟨kind, by simp only [Manifest.type, ResourceType.ofKind, kind]; decide +kernel⟩

end

/-- A Deployment whose name cannot stand in the address of a request. -/
def unaddressable : String :=
  "apiVersion: apps/v1\nkind: Deployment\nmetadata:\n  name: a b\n"

/-- An asset may be in order without anything being sent for it, and then its sync fails. -/
theorem unaddressable_unsent :
    let _ : Decode.Wording := .brief
    let assets : AssetSource := AssetSource.ofEntries [("a.yaml", unaddressable)]
    let synced := converse (fun _ => .lost "")
      ((syncDeployment "C" assets (some "a.yaml")).via Api.applyText)
    (∃ manifests, Validated assets (some "a.yaml") manifests) ∧ synced.2 = [] ∧
      synced.1.isOk = false := by
  -- The text is evaluated as far as it can be loaded, and then as far as its sync.
  intro _ assets synced
  have loads : (loadDeployment "C" assets "a.yaml").isOk = true := by decide +kernel
  have unsent : synced.2.isEmpty = true ∧ synced.1.isOk = false := by decide +kernel
  have found := (Failure.isOk_iff _).mp loads
  exact ⟨(validated_iff "C" assets "a.yaml").mpr found, List.isEmpty_iff.mp unsent.1, unsent.2⟩

-- Of two Deployments, the second one is refused after the first one has been accepted.
example :
    let _ : Decode.Wording := .brief
    let deployment (name : String) : String :=
      "apiVersion: apps/v1\nkind: Deployment\nmetadata:\n  name: " ++ name ++ "\n"
    let assets := AssetSource.ofEntries [("a.yaml", deployment "a" ++ "---\n" ++ deployment "b")]
    let accepted : Reply := .answered 200 ("\x7b\"apiVersion\":\"apps/v1\"," ++
      "\"kind\":\"Deployment\",\"metadata\":\x7b\"name\":\"a\"\x7d\x7d")
    let synced := converse (fun | 0 => accepted | _ => .lost "")
      ((syncDeployment "C" assets (some "a.yaml")).via Api.applyText)
    synced.2.map (·.target.path) = ["/apis/apps/v1/deployments/a", "/apis/apps/v1/deployments/b"] ∧
      synced.1.isOk = false := by decide +kernel

end CsiOperator.Controller
