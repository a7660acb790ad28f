import CsiOperator.Controller.Basic
import CsiOperator.Proofs.Api.Apply
import CsiOperator.Proofs.Controller.Deployment

/-! A sync of static assets attempts each of them, whatever has become of the others. -/

namespace CsiOperator.Controller

open Api (Ended Reply Request converse requestFor)

/-- What has become of one asset. -/
structure Attempt where
  /-- The name of the asset. -/
  asset : String
  /-- The replies that are left when it is its turn. -/
  replies : Nat → Reply
  /-- The requests that are sent for it. -/
  sent : List Request
  /-- How it ends. -/
  outcome : Except Failure Unit

namespace Attempt

/-- What the sync tells about an asset that fails. -/
def complaint [Decode.Wording] (a : Attempt) : Option String :=
  -- An asset that is applied leaves nothing to tell.
  match a.outcome with
  | .ok () => none
  | .error failure => some (a.asset ++ ": " ++ failure.message)

/-- The asset alone, and the replies, decide what becomes of it. -/
inductive Follows [Decode.Wording] (assets : AssetSource) (a : Attempt) : Prop
  /-- It cannot be loaded, so that nothing is sent for it. -/
  | missing {failure : Failure} : assets a.asset = .error failure → a.sent = [] →
    a.outcome = .error failure → Follows assets a
  /-- The requests for its documents are sent in order until one of them ends it. -/
  | loaded {text : String} : assets a.asset = .ok text →
    a.sent.map .ok = ((Manifest.documents text).take a.sent.length).map requestFor →
    Ended a.replies (Manifest.documents text) a.sent a.outcome → Follows assets a

/-- Every document of the asset has been applied. -/
def Whole (assets : AssetSource) (a : Attempt) : Prop :=
  -- There is one request for each document, and each of them is accepted.
  ∃ text, assets a.asset = .ok text ∧ a.sent.length = (Manifest.documents text).length ∧
    ∀ k < a.sent.length, (a.replies k).Accepts

/-- Each asset finds the replies that the assets before it have left. -/
def InTurn (replies : Nat → Reply) : List Attempt → Prop
  -- Replies are taken in turn, so as many are gone as requests have been sent.
  | [] => True
  | a :: later => a.replies = replies ∧ InTurn (fun k => replies (a.sent.length + k)) later

end Attempt

section

variable [Decode.Wording]

/-- Applying one asset follows its documents. -/
theorem applyAsset_follows (assets : AssetSource) (replies : Nat → Reply) (asset : String) :
    let applied := converse replies ((applyAsset assets asset).via Api.applyText)
    (⟨asset, replies, applied.2, applied.1⟩ : Attempt).Follows assets := by
  -- Only an asset that loads has documents to be applied.
  intro applied
  cases found : assets asset with
  | error failure =>
    have idle : applied = (.error failure, []) := by
      simp only [applied, applyAsset, found]
      rfl
    exact .missing found (congrArg Prod.snd idle) (congrArg Prod.fst idle)
  | ok text =>
    have same : applied = converse replies (Api.applyDocuments (Manifest.documents text)) := by
      simp only [applied, applyAsset, found]
      exact congrArg (converse replies) (Dialogue.bind_done _)
    obtain ⟨requests, ended⟩ := Api.applyDocuments_converse replies (Manifest.documents text)
    rw [← same] at requests ended
    exact .loaded found requests ended

/-- The assets are attempted one after another, and every failure among them is told. -/
theorem failedAssets_converse (assets : AssetSource) (replies : Nat → Reply) (names : List String) :
    ∃ attempts : List Attempt, attempts.map (·.asset) = names ∧
      Attempt.InTurn replies attempts ∧ (∀ a ∈ attempts, a.Follows assets) ∧
      converse replies ((failedAssets assets names).via Api.applyText) =
        (attempts.filterMap (·.complaint), attempts.flatMap (·.sent)) := by
  -- The induction is on the names, for any replies, as every asset leaves fewer of them to the next one.
  induction names generalizing replies with
  | nil => exact ⟨[], rfl, trivial, by simp, rfl⟩
  | cons asset rest ih =>
    let applied := converse replies ((applyAsset assets asset).via Api.applyText)
    let a : Attempt := ⟨asset, replies, applied.2, applied.1⟩
    obtain ⟨later, names, inTurn, follows, told⟩ := ih fun k => replies (a.sent.length + k)
    refine ⟨a :: later, congrArg (asset :: ·) names, ⟨rfl, inTurn⟩, ?_, ?_⟩
    · intro b member
      rcases List.mem_cons.mp member with rfl | member
      · exact applyAsset_follows assets replies asset
      · exact follows b member
    · -- The other assets are attempted in either case, and only what is told depends on the first one.
      rw [failedAssets, Dialogue.via_bind, Api.converse_bind]
      simp only [Dialogue.via_bind, Api.converse_bind]
      rw [show converse replies ((applyAsset assets asset).via Api.applyText) = (a.outcome, a.sent)
        from rfl]
      simp only [told]
      cases ended : a.outcome with
      | ok done =>
        have quiet : a.complaint = none := by simp [Attempt.complaint, ended]
        rw [List.filterMap_cons_none quiet, List.flatMap_cons]
        exact congrArg (Prod.mk _ <| a.sent ++ ·) (List.append_nil _)
      | error failure =>
        have tells : a.complaint = some (asset ++ ": " ++ failure.message) := by
          rw [Attempt.complaint, ended]
        rw [List.filterMap_cons_some tells, List.flatMap_cons]
        exact congrArg (Prod.mk _ <| a.sent ++ ·) (List.append_nil _)

/-- All is well with an asset when every document of it has been applied. -/
theorem Attempt.Follows.ok_iff {assets : AssetSource} {a : Attempt} (follows : a.Follows assets) :
    a.outcome = .ok () ↔ a.Whole assets := by
  -- An asset either does not load, or is followed document by document.
  cases follows with
  | missing fails none ends =>
    -- An asset that does not load fails, and has no text whose documents could have been applied.
    constructor
    · intro good
      cases ends.symm.trans good
    · rintro ⟨text, loads, -⟩
      cases fails.symm.trans loads
  | @loaded text loads requests ended =>
    -- The documents of the asset are those of the text that is loaded.
    have known : a.Whole assets ↔ a.sent.length = (Manifest.documents text).length ∧
        ∀ k < a.sent.length, (a.replies k).Accepts := by
      simp [Attempt.Whole, loads]
    rw [known]
    generalize a.outcome = outcome at ended
    cases ended with
    | applied whole accepts => simpa using ⟨whole, accepts⟩
    | unsent accepts next fails =>
      -- A document is left, so that not all of them have been sent.
      have left := (List.getElem?_eq_some_iff.mp next).1
      simp only [reduceCtorEq, false_iff, not_and]
      intro whole
      omega
    | @refused k document m cause last accepts next parsed brought =>
      have refuses : ¬ (a.replies k).Accepts := by simp [Reply.Accepts, brought]
      simp only [reduceCtorEq, false_iff, not_and]
      intro _ accepted
      exact refuses (accepted k (by omega))

/--
A sync of static assets attempts every asset in order, each with what the others have left of the replies.

What is sent for an asset depends on that asset and its replies alone. The sync succeeds when all documents
of all assets have been applied, and otherwise tells every asset that fails with its failure.
-/
theorem syncStatics_attempts (controller : String) (assets : AssetSource) (names : List String)
    (replies : Nat → Reply) :
    let synced := converse replies ((syncStatics controller assets names).via Api.applyText)
    ∃ attempts : List Attempt, attempts.map (·.asset) = names ∧
      Attempt.InTurn replies attempts ∧ (∀ a ∈ attempts, a.Follows assets) ∧
      synced.2 = attempts.flatMap (·.sent) ∧
      (synced.1 = .ok () ↔ ∀ a ∈ attempts, a.Whole assets) ∧
      synced.1 = match attempts.filterMap (·.complaint) with
        | [] => .ok ()
        | complaints => .error (.internal controller (String.intercalate "; " complaints)) := by
  -- All attempts are known from the run over the names, and only the joining of the complaints is
  -- left.
  intro synced
  obtain ⟨attempts, names, inTurn, follows, told⟩ := failedAssets_converse assets replies names
  have run : synced = (match attempts.filterMap (·.complaint) with
      | [] => .ok ()
      | complaints => .error (.internal controller (String.intercalate "; " complaints)),
      attempts.flatMap (·.sent)) := by
    simp only [synced, syncStatics, Dialogue.via_bind, Api.converse_bind, told]
    cases attempts.filterMap (·.complaint) <;> exact congrArg (Prod.mk _) (List.append_nil _)
  refine ⟨attempts, names, inTurn, follows, congrArg Prod.snd run, ?_, congrArg Prod.fst run⟩
  -- Nothing is told exactly when no asset has anything to be told about.
  have silent : synced.1 = .ok () ↔ attempts.filterMap (·.complaint) = [] := by
    rw [run]
    cases attempts.filterMap (·.complaint) <;> simp
  rw [silent, List.filterMap_eq_nil_iff]
  apply forall₂_congr
  intro a member
  rw [← (follows a member).ok_iff, Attempt.complaint]
  cases a.outcome <;> simp

end

/-- An asset may have a manifest for which nothing is sent, and then its sync fails. -/
theorem unaddressable_untried :
    let _ : Decode.Wording := .brief
    let assets : AssetSource := AssetSource.ofEntries [("a.yaml", unaddressable)]
    let synced := converse (fun _ => .lost "")
      ((syncStatics "C" assets ["a.yaml"]).via Api.applyText)
    assets "a.yaml" = .ok unaddressable ∧
      (∃ document m, Manifest.documents unaddressable = [document] ∧
        Manifest.parse document = .ok m) ∧ synced.2 = [] ∧ synced.1.isOk = false := by
  -- The text is evaluated as far as it parses, and then as far as its sync.
  intro _ assets synced
  have unsent : synced.2.isEmpty = true ∧ synced.1.isOk = false := by decide +kernel
  have parses : ∀ document ∈ Manifest.documents unaddressable,
      (Manifest.parse document).isOk = true := by decide +kernel
  have single : (Manifest.documents unaddressable).length = 1 := by decide +kernel
  refine ⟨rfl, ?_, List.isEmpty_iff.mp unsent.1, unsent.2⟩
  obtain ⟨document, only⟩ := List.length_eq_one_iff.mp single
  obtain ⟨m, parsed⟩ := (Failure.isOk_iff _).mp (parses document (by simp [only]))
  exact ⟨document, m, only, parsed⟩

-- A missing asset and one that is refused do not stop the asset after them.
example :
    let _ : Decode.Wording := .brief
    let config (name : String) : String :=
      "apiVersion: v1\nkind: ConfigMap\nmetadata:\n  name: " ++ name ++ "\n"
    let assets := AssetSource.ofEntries [("a.yaml", config "a" ++ "---\n" ++ config "b"),
      ("c.yaml", config "c")]
    let synced := converse (fun _ => .lost "")
      ((syncStatics "C" assets ["none.yaml", "a.yaml", "c.yaml"]).via Api.applyText)
    synced.2.map (·.target.path) = ["/api/v1/configmaps/a", "/api/v1/configmaps/c"] ∧
      synced.1.isOk = false := by decide +kernel

end CsiOperator.Controller
