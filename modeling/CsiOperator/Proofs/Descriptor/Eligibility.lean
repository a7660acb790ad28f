import CsiOperator.Descriptor.Eligibility
import CsiOperator.Proofs.Json.Entries
import Mathlib.Tactic.ByContra

/-! A driver runs on its platform if the selected set, as it was catalogued last, has its feature. -/

namespace CsiOperator

namespace FeatureCatalog

/-- A catalog with more sets, put in one after another. -/
def withSets (c : FeatureCatalog) (puts : List (String × List String)) : FeatureCatalog :=
  puts.foldl (fun c put => c.withSet put.1 put.2) c

/-- What a catalog is made from. -/
inductive Origin where
  /-- A catalog without sets. -/
  | nothing
  /-- The catalog of the release. -/
  | release
  deriving DecidableEq, Repr

namespace Origin

/-- The catalog to begin with. -/
def catalog : Origin → FeatureCatalog
  -- A catalog is empty or that of the release before anything is put in.
  | nothing => FeatureCatalog.empty
  | release => FeatureCatalog.builtin

/-- The sets that the catalog has to begin with, in the order in which they were put in. -/
def puts : Origin → List (String × List String)
  -- The release is told as if its sets had been put in one after another.
  | nothing => []
  | release => [("Default", defaultFeatures),
      ("TechPreviewNoUpgrade", defaultFeatures ++ previewFeatures),
      ("DevPreviewNoUpgrade", defaultFeatures ++ previewFeatures)]

/-- The catalog of the release is made from nothing, too. -/
theorem catalog_eq (origin : Origin) : origin.catalog = FeatureCatalog.empty.withSets origin.puts := by
  cases origin <;> rfl

end Origin

/-- The features that were put in last under a name; none if nothing was. -/
def lastPut (puts : List (String × List String)) (name : String) : List String :=
  (puts.reverse.lookup name).getD []

/-- The features that a selection refers to, where sets have been put in one after another.

Without a selected set these are none, and for a custom set those that the object switches on. For any
other set they are what was put in last under its name. -/
def referenced (puts : List (String × List String)) (gate : FeatureGate) : List String :=
  -- The two reserved names come first, so sets of these names are never looked up.
  if gate.featureSet = "" then []
  else if gate.featureSet = "CustomNoUpgrade" then
    match gate.customNoUpgrade with
    | none => []
    | some lists => lists.enabled
  else lastPut puts gate.featureSet

/-- Sets that are put in count before those that a catalog has, and the later ones before the earlier
ones. -/
theorem features_withSets (c : FeatureCatalog) (puts : List (String × List String)) (name : String) :
    (c.withSets puts).features? name = (puts.reverse.lookup name).or (c.features? name) := by
  -- The sets are put in one by one, the first of them into a catalog that the others go into.
  induction puts generalizing c with
  | nil => rfl
  | cons put rest ih =>
    have first : (c.withSet put.1 put.2).features? name =
        if name = put.1 then some put.2 else c.features? name :=
      Json.lookup_insertEntry name put.1 put.2 c.sets
    show ((c.withSet put.1 put.2).withSets rest).features? name = _
    rw [ih, first, List.reverse_cons, List.lookup_append, Option.or_assoc, Json.lookup_cons_eq]
    split <;> simp

/-- A catalog lists what a selection refers to. -/
theorem listed_withSets (origin : Origin) (puts : List (String × List String)) (gate : FeatureGate) :
    (origin.catalog.withSets puts).listed gate = referenced (origin.puts ++ puts) gate := by
  -- What a name stands for is what has been put last under it.
  have named : ((origin.catalog.withSets puts).features? gate.featureSet).getD [] =
      lastPut (origin.puts ++ puts) gate.featureSet := by
    -- Both parts of the history have been put into a catalog without sets.
    rw [features_withSets, origin.catalog_eq, features_withSets, lastPut, List.reverse_append,
      List.lookup_append]
    exact congrArg (Option.getD · []) (congrArg _ (Option.or_none ..))
  -- A selection is unset, custom or named, and only a named one is looked up.
  unfold listed FeatureGate.selected referenced
  by_cases unset : gate.featureSet = ""
  · simp [unset]
  by_cases custom : gate.featureSet = "CustomNoUpgrade"
  · cases gate.customNoUpgrade <;> simp [custom, FeatureGate.customSet]
  · simp [unset, custom, FeatureGate.customSet, named]

/-- One more set matters only to a selection that names it, and never under a reserved name. -/
theorem referenced_concat (puts : List (String × List String)) (name : String)
    (features : List String) (gate : FeatureGate)
    (other : ¬ (gate.featureSet = name ∧ name ≠ "" ∧ name ≠ "CustomNoUpgrade")) :
    referenced (puts ++ [(name, features)]) gate = referenced puts gate := by
  -- The selection is looked at under its own name, which the new set does not have.
  unfold referenced
  split
  · rfl
  · rename_i set
    split
    · rfl
    · -- The selection has a name that is not reserved, so it is not that of the set.
      rename_i named
      have apart : gate.featureSet ≠ name := by
        intro same
        exact other ⟨same, same ▸ set, same ▸ named⟩
      rw [lastPut, lastPut, List.reverse_concat, Json.lookup_cons_eq, if_neg apart]

end FeatureCatalog

namespace Descriptor

open FeatureCatalog (Origin referenced)

/--
A driver should run exactly on its own platform, once the selection of the cluster refers to its
feature, if it needs one.

The sets that have been put into the catalog matter only where the selection names one of them.
-/
theorem shouldRun_iff_referenced (d : Descriptor) (infrastructure : Infrastructure)
    (gate : FeatureGate) (origin : Origin) (puts : List (String × List String)) :
    let catalog := origin.catalog.withSets puts
    (d.shouldRun infrastructure gate catalog = true ↔
      infrastructure.platform = some d.platform ∧
        (d.requiredFeature = none ∨ ∃ feature, d.requiredFeature = some feature ∧
          feature ∈ referenced (origin.puts ++ puts) gate)) ∧
    -- Another set changes the answer only for a selection that names it.
    ∀ name features,
      d.shouldRun infrastructure gate (catalog.withSet name features) ≠
        d.shouldRun infrastructure gate catalog →
      gate.featureSet = name ∧ name ≠ "" ∧ name ≠ "CustomNoUpgrade" := by
  -- The features of a gate come into it only through what the catalog lists.
  intro catalog
  -- What the catalog lists is what the selection refers to, before and after another set.
  have listed (more : List (String × List String)) :
      (origin.catalog.withSets more).listed gate = referenced (origin.puts ++ more) gate :=
    FeatureCatalog.listed_withSets origin more gate
  refine ⟨?_, ?_⟩
  · rw [shouldRun, Bool.and_eq_true, beq_iff_eq]
    cases d.requiredFeature <;> simp [FeatureCatalog.isEnabled, catalog, listed]
  · intro name features changed
    by_contra other
    apply changed
    have last : catalog.withSet name features =
        origin.catalog.withSets (puts ++ [(name, features)]) := by
      simp [catalog, FeatureCatalog.withSets]
    have same : (catalog.withSet name features).listed gate = catalog.listed gate := by
      rw [last, listed, ← List.append_assoc, FeatureCatalog.referenced_concat _ _ _ _ other, listed]
    simp only [shouldRun, FeatureCatalog.isEnabled, same]

-- Sets under reserved names are never looked up, and a later set counts before one of the release.
example :
    let catalog := FeatureCatalog.builtin.withSets
      [("", ["X"]), ("CustomNoUpgrade", ["X"]), ("Default", ["X"])]
    let runs (gate : FeatureGate) := ((new "A" .aws "a.csi").requireFeature "X").shouldRun
      (.withPlatform "cluster" (some .aws)) gate catalog
    [.withFeatureSet "cluster" "", .withGates "cluster" [], .withFeatureSet "cluster" "Default"].map
      runs = [false, false, true] := by decide +kernel

end Descriptor

end CsiOperator
