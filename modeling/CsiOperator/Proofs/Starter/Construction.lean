import CsiOperator.Proofs.Descriptor.Refusal
import CsiOperator.Proofs.Dialogue
import CsiOperator.Starter.Construction

/-! An operator has its bundles made once each, and only when its drivers are accepted. -/

namespace CsiOperator.Starter

open Descriptor (validateAll Refused)

variable {σ β : Type}

/-- The bundles of drivers are made one after another. -/
theorem makeAll_run {m : Type → Type} [Monad m] [LawfulMonad m] (factory : Descriptor → m β)
    (ds : List Descriptor) : (makeAll ds).run factory = ds.mapM factory := by
  -- By induction on the drivers, since both sides go through them in one order.
  induction ds with
  | nil => rfl
  | cons d rest ih =>
    -- The bundle of the first driver is made before anything is asked about the others.
    rw [makeAll, Dialogue.run_ask, List.mapM_cons]
    refine bind_congr fun bundle => ?_
    refine (Dialogue.run_bind ..).trans ?_
    rw [ih]
    rfl

/-- Every driver is asked about once, in the order of the drivers. -/
theorem makeAll_questions (factory : Descriptor → StateM σ β) (ds : List Descriptor) (s : σ) :
    Dialogue.questions factory (makeAll ds) s = ds := by
  -- By induction on the drivers, with the state that each question leaves.
  induction ds generalizing s with
  | nil => rfl
  | cons d rest ih =>
    -- Nothing is asked any more when all bundles have been made.
    rw [makeAll, Dialogue.questions_ask]
    refine congrArg (d :: ·) ?_
    refine (Dialogue.questions_bind ..).trans ?_
    rw [ih]
    exact List.append_nil rest

/-- An operator is made of its drivers unless they are refused. -/
theorem new_eq (ds : List Descriptor) : new ds = match validateAll ds with
    | .error failure => .error failure
    | .ok () => .ok ⟨ds.map fun d => ⟨d, false⟩, Ledger.empty, FeatureCatalog.builtin⟩ := by
  -- Only whether the list is accepted decides.
  unfold new
  cases validateAll ds <;> rfl

/--
Drivers are accepted when each of them is valid and no two have one name for their bundles or for
themselves, so that neither their order nor drivers that are left out matter.

Otherwise the first driver that cannot follow those before it tells the fault. The bundles of accepted
drivers are made once each in their order, and no bundle is made for any others.
-/
theorem construct_accepts (ds : List Descriptor) :
    (validateAll ds = .ok () ↔
      (∀ d ∈ ds, (∃ c ∈ d.conditionPrefix.toList, Text.isBlank c = false) ∧
        (∃ c ∈ d.driver.toList, Text.isBlank c = false) ∧ d.platform ≠ .unknown) ∧
      (ds.map (·.conditionPrefix)).Nodup ∧ (ds.map (·.driver)).Nodup) ∧
    (∀ other, ds.Perm other → (validateAll other = .ok () ↔ validateAll ds = .ok ())) ∧
    (∀ part, part.Sublist ds → validateAll ds = .ok () → validateAll part = .ok ()) ∧
    -- The drivers up to the one that is refused are the shortest part that is not accepted.
    (∀ failure, validateAll ds = .error failure ↔ ∃ before d after, ds = before ++ d :: after ∧
      validateAll before = .ok () ∧ validateAll (before ++ [d]) = .error failure ∧
      Refused before d failure) ∧
    -- Whatever makes the bundles is asked only about accepted drivers.
    ∀ {σ β : Type} (factory : Descriptor → StateM σ β) (s : σ),
      (∀ failure, validateAll ds = .error failure →
        Dialogue.questions factory (construct ds) s = [] ∧
        ((construct ds).run factory).run s = (.error failure, s)) ∧
      (validateAll ds = .ok () →
        Dialogue.questions factory (construct ds) s = ds ∧
        ∃ starter, new ds = .ok starter ∧ ((construct ds).run factory).run s =
          (.ok (starter, ((ds.mapM factory).run s).1), ((ds.mapM factory).run s).2)) := by
  -- Each part is the one on lists of drivers; what is new is how often the factory is asked.
  refine ⟨?_, fun other same => Descriptor.validateAll_perm same,
    fun part among => Descriptor.validateAll_sublist among, fun failure => ?_, ?_⟩
  · simp only [Descriptor.validateAll_ok_iff, Descriptor.validate_ok_iff, Descriptor.Visible]
  · -- The refused driver is refused again at the end of the shorter list.
    rw [Descriptor.validateAll_error_iff]
    constructor
    · rintro ⟨before, d, after, whole, passed, refused⟩
      refine ⟨before, d, after, whole, passed, ?_, refused⟩
      exact (Descriptor.validateAll_error_iff ..).mpr ⟨before, d, [], rfl, passed, refused⟩
    · rintro ⟨before, d, after, whole, passed, -, refused⟩
      exact ⟨before, d, after, whole, passed, refused⟩
  · intro σ β factory s
    constructor
    · intro failure refused
      have whole : (construct ds : Making β _) = .done (.error failure) := by
        simp only [construct, new_eq, refused]
      rw [whole]
      exact ⟨rfl, rfl⟩
    · intro accepted
      obtain ⟨starter, made⟩ : ∃ starter, new ds = .ok starter := by simp [new_eq, accepted]
      have whole : (construct ds : Making β _) =
          makeAll ds >>= fun bundles => .done (.ok (starter, bundles)) := by
        simp only [construct, made]
        rfl
      refine ⟨?_, starter, made, ?_⟩
      · -- The operator is there at once when the bundles are, and nothing more is asked.
        rw [whole, Dialogue.questions_bind, makeAll_questions]
        exact List.append_nil ds
      · rw [whole, Dialogue.run_bind_state, makeAll_run]
        rfl

end CsiOperator.Starter
