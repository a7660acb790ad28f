import CsiOperator.Api.Apply
import CsiOperator.Proofs.Api.Conversation

/-! Applying documents sends one request for each, up to the first document that fails. -/

namespace CsiOperator

open Api (Exchange Reply Request collection converse)

variable [Decode.Wording]

namespace Manifest

/-- The request that applies the object of a manifest, if one can be made. -/
def request (m : Manifest) : Except ApiFailure Request :=
  Request.apply (collection m.type m.metadata.space) m.metadata.anyName m.toJson

/-- The failure to apply the object of a manifest. -/
def unapplied (m : Manifest) (cause : ApiFailure) : Failure :=
  .internal "apply_manifest" (m.kind ++ " " ++ m.metadata.anyName ++ ": " ++ cause.message)

end Manifest

namespace Api

/-- A reply to an application brings an object back. -/
def Reply.Accepts (reply : Reply) : Prop :=
  ∃ object, reply.object (Manifest.read (ν := Json.Tree)) = .ok object

/-- The request for a document, if it is a manifest for which one can be made. -/
def requestFor (document : String) : Except Failure Request :=
  -- There is none if the document is no manifest, or if its path cannot be requested.
  match Manifest.parse document with
  | .error failure => .error failure
  | .ok m =>
    match m.request with
    | .error cause => .error (m.unapplied cause)
    | .ok request => .ok request

/-- How applying documents ends after some requests. -/
inductive Ended (replies : Nat → Reply) (documents : List String) (sent : List Request) :
    Except Failure Unit → Prop
  /-- Every document has been applied. -/
  | applied : sent.length = documents.length → (∀ k < sent.length, (replies k).Accepts) →
    Ended replies documents sent (.ok ())
  /-- There is no request for the next document. -/
  | unsent {document : String} {failure : Failure} : (∀ k < sent.length, (replies k).Accepts) →
    documents[sent.length]? = some document → requestFor document = .error failure →
    Ended replies documents sent (.error failure)
  /-- The last request has not been accepted. -/
  | refused {k : Nat} {document : String} {m : Manifest} {cause : ApiFailure} :
    sent.length = k + 1 → (∀ j < k, (replies j).Accepts) → documents[k]? = some document →
    Manifest.parse document = .ok m →
    (replies k).object (Manifest.read (ν := Json.Tree)) = .error cause →
    Ended replies documents sent (.error (m.unapplied cause))

/-- An accepted request before the others leaves open how applying ends. -/
theorem Ended.cons {replies : Nat → Reply} {documents : List String} {sent : List Request}
    {outcome : Except Failure Unit} (accepted : (replies 0).Accepts)
    (ended : Ended (fun k => replies (k + 1)) documents sent outcome) (document : String)
    (request : Request) : Ended replies (document :: documents) (request :: sent) outcome := by
  -- The first reply is an acceptance, and every other one stands one place later.
  have shifted : ∀ {n}, (∀ k < n, (replies (k + 1)).Accepts) →
      ∀ k < n + 1, (replies k).Accepts := by
    intro n later k within
    cases k with
    | zero => exact accepted
    | succ k => exact later k (by omega)
  cases ended with
  | applied all accepts => exact .applied (congrArg (· + 1) all) (shifted accepts)
  | unsent accepts next fails => exact .unsent (shifted accepts) next fails
  | refused last accepts there parsed cause =>
    exact .refused (congrArg (· + 1) last) (shifted accepts) there parsed cause

/-- Applying one manifest is at most one request, whose reply decides the outcome. -/
theorem applyManifest_eq (m : Manifest) :
    applyManifest m = match m.request with
      | .error cause => .done (.error (m.unapplied cause))
      | .ok request => .ask request fun reply =>
        .done (match reply.object (Manifest.read (ν := Json.Tree)) with
          | .error cause => .error (m.unapplied cause)
          | .ok _ => .ok ()) := by
  -- Applying is one exchange and then a look at its outcome, and the exchange ends at once when
  -- there is no request.
  simp only [applyManifest]
  change Dialogue.bind (exchange m.request _) _ = _
  cases m.request with
  | error cause => rfl
  | ok request =>
    -- What the reply brings is looked at only after the request.
    refine congrArg (Dialogue.ask request) (funext fun reply => ?_)
    show Dialogue.bind (.done (reply.object Manifest.read)) _ = _
    cases reply.object (Manifest.read (ν := Json.Tree)) <;> rfl

/-- Applying documents is applying the first one, and the others once that is accepted. -/
theorem applyDocuments_cons (document : String) (rest : List String) :
    applyDocuments (document :: rest) = match Manifest.parse document with
      | .error failure => .done (.error failure)
      | .ok m =>
        match m.request with
        | .error cause => .done (.error (m.unapplied cause))
        | .ok request => .ask request fun reply =>
          match reply.object (Manifest.read (ν := Json.Tree)) with
          | .error cause => .done (.error (m.unapplied cause))
          | .ok _ => applyDocuments rest := by
  -- The first document is at most one request, behind which only the others are left.
  rw [applyDocuments]
  cases Manifest.parse document with
  | error failure => rfl
  | ok m =>
    simp only [applyManifest_eq]
    cases m.request with
    | error cause => rfl
    | ok request =>
      refine congrArg (Dialogue.ask request) (funext fun reply => ?_)
      cases brought : reply.object (Manifest.read (ν := Json.Tree)) <;>
        simp only [brought, Dialogue.bind]

/-- Applying documents sends the requests for the first of them, in order. -/
theorem applyDocuments_converse (replies : Nat → Reply) (documents : List String) :
    let applied := converse replies (applyDocuments documents)
    applied.2.map .ok = (documents.take applied.2.length).map requestFor ∧
      Ended replies documents applied.2 applied.1 := by
  -- Every document is applied with the first reply that the earlier ones have left.
  induction documents generalizing replies with
  | nil => exact ⟨rfl, .applied rfl (by simp [applyDocuments])⟩
  | cons document rest ih =>
    rw [applyDocuments_cons]
    cases parsed : Manifest.parse document with
    | error failure => exact ⟨rfl, .unsent (by simp) rfl (by simp [requestFor, parsed])⟩
    | ok m =>
      cases made : m.request with
      | error cause =>
        simp only [made]
        exact ⟨rfl, .unsent (by simp) rfl (by simp [requestFor, parsed, made])⟩
      | ok request =>
        have asked : requestFor document = .ok request := by simp [requestFor, parsed, made]
        simp only [made, converse_ask]
        cases brought : (replies 0).object (Manifest.read (ν := Json.Tree)) with
        | error cause =>
          exact ⟨by simp [asked], .refused rfl (by simp) rfl parsed brought⟩
        | ok object =>
          obtain ⟨requests, ended⟩ := ih fun k => replies (k + 1)
          exact ⟨by simp [asked, requests], ended.cons ⟨object, brought⟩ document request⟩

end Api

end CsiOperator
