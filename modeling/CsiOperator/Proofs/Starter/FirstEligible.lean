import CsiOperator.Proofs.Starter.Run

/-! A bundle starts in the first call for which its driver is eligible, whatever the others do. -/

namespace CsiOperator.Starter

/-- The drivers whose bundles one call of a run starts, in order. -/
def startedIn (s : Starter) (visits : List Visit) (i : Nat) : List Descriptor :=
  (((s.turns visits)[i]?.map (·.starts)).getD []).map (·.descriptor)

/-- The bundles that run after a run are those that ran before or were eligible during it. -/
theorem after_bundles (s : Starter) (visits : List Visit) :
    (s.after visits).bundles = s.bundles.map fun b =>
      { b with running := b.running || visits.any (·.isEligible s.catalog b.descriptor) } := by
  -- A call starts every eligible bundle, and no call stops one.
  induction visits generalizing s with
  | nil => simp [after]
  | cons v rest ih =>
    rw [after, ih]
    simp [Visit.turn_eq, startDue_bundles, Function.comp_def, Bool.or_assoc]

/-- Each call of a run starts the eligible drivers that no earlier call has found eligible. -/
theorem startedIn_eq {ds : List Descriptor} {s : Starter} (accepted : new ds = .ok s)
    (catalog : FeatureCatalog) (visits : List Visit) {i : Nat} (within : i < visits.length) :
    (s.withCatalog catalog).startedIn visits i = ds.filter fun d =>
      !(visits.take i).any (·.isEligible catalog d) && visits[i].isEligible catalog d := by
  -- Before the call, the running bundles are those found eligible earlier.
  have bundles : ((s.withCatalog catalog).after (visits.take i)).bundles = ds.map fun d =>
      ⟨d, (visits.take i).any (·.isEligible catalog d)⟩ := by
    rw [after_bundles]
    simp [withCatalog, (new_ok accepted).2.1, Function.comp_def]
  rw [startedIn, turns_getElem?, List.getElem?_eq_getElem within]
  simp only [Option.map_some, Option.getD_some, Visit.turn_eq, startDue_starts, after_catalog,
    bundles, List.filter_map, List.map_map]
  simp [Function.comp_def, Starts, withCatalog]

/-- A call starts a driver exactly when it is the first call for which the driver is eligible. -/
theorem mem_startedIn_iff {ds : List Descriptor} {s : Starter} (accepted : new ds = .ok s)
    (catalog : FeatureCatalog) (visits : List Visit) {i : Nat} (within : i < visits.length)
    (d : Descriptor) :
    d ∈ (s.withCatalog catalog).startedIn visits i ↔ d ∈ ds ∧ visits[i].Eligible catalog d ∧
      ∀ j (earlier : j < i), ¬ visits[j].Eligible catalog d := by
  -- That no earlier call has found the driver eligible can be said call by call.
  have unseen : (visits.take i).any (·.isEligible catalog d) = false ↔
      ∀ j (earlier : j < i), ¬ visits[j].Eligible catalog d := by
    rw [List.any_eq_false]
    constructor
    · intro none j earlier eligible
      have taken : visits[j] ∈ visits.take i := by
        rw [List.mem_take_iff_getElem]
        exact ⟨j, by omega, rfl⟩
      exact none _ taken ((visits[j].isEligible_iff catalog d).mpr eligible)
    · intro none v taken eligible
      obtain ⟨j, before, rfl⟩ := List.mem_take_iff_getElem.mp taken
      exact none j (by omega) ((Visit.isEligible_iff _ catalog d).mp eligible)
  rw [startedIn_eq accepted catalog visits within, List.mem_filter, ← unseen,
    ← Visit.isEligible_iff, Bool.and_eq_true, Bool.not_eq_true', and_comm (b := _ = true)]

/--
A bundle starts in the first call for which its driver is eligible.

When that is depends on the calls and on the driver alone, not on the other drivers of the list.
-/
theorem started_iff_first_eligible {ds : List Descriptor} {s : Starter}
    (accepted : new ds = .ok s) (catalog : FeatureCatalog) (visits : List Visit) :
    let begun := s.withCatalog catalog
    (∀ d ∈ ds, ∀ i (within : i < visits.length), d ∈ begun.startedIn visits i ↔
      visits[i].Eligible catalog d ∧
        ∀ j (earlier : j < i), ¬ visits[j].Eligible catalog d) ∧
    -- The reply of a sync names the bundles that it has started, in the order of the drivers.
    (∀ i, begun.startedIn visits i = ds.filter (· ∈ begun.startedIn visits i)) ∧
    (∀ i (within : i < visits.length), visits[i].demand ≠ .running →
      ((begun.turns visits)[i]?).map (·.reply) = some (visits[i].snapshot.map fun _ =>
        (begun.startedIn visits i).map (·.conditionPrefix))) ∧
    -- Any other accepted list with the same driver starts it in the same call.
    (∀ others t, new others = .ok t → ∀ d ∈ ds, d ∈ others → ∀ i,
      d ∈ begun.startedIn visits i ↔ d ∈ (t.withCatalog catalog).startedIn visits i) := by
  -- Every part is the characterization of who is started in a sync, seen from one side.
  intro begun
  refine ⟨?_, ?_, ?_, ?_⟩
  · intro d member i within
    rw [mem_startedIn_iff accepted catalog visits within]
    simp only [member, true_and]
  · intro i
    rcases Nat.lt_or_ge i visits.length with within | outside
    · -- The bundles started in one call are a selection from the drivers, so they keep their order.
      rw [startedIn_eq accepted catalog visits within]
      refine List.filter_congr fun d member => ?_
      simp only [List.mem_filter, member, true_and, Bool.decide_eq_true]
    · simp [startedIn, outside]
  · -- The reply and the starts come from one turn.
    intro i within looks
    rw [startedIn, turns_getElem?, List.getElem?_eq_getElem within]
    simp only [Option.map_some, Option.getD_some, Visit.turn_eq, Visit.reply, List.map_map]
    rfl
  · -- The first eligible call is the same one for both lists, because no list occurs in it.
    intro others t alsoAccepted d member shared i
    rcases Nat.lt_or_ge i visits.length with within | outside
    · rw [mem_startedIn_iff accepted catalog visits within,
        mem_startedIn_iff alsoAccepted catalog visits within]
      simp only [member, shared]
    · simp [startedIn, outside]

/-- Both drivers of a platform start in the first sync that can read everything. -/
theorem started_iff_first_eligible_builtin :
    let visits : List Visit := [.ungatedOn .azure, .managedOn .azure, .managedOn .gcp]
    let begun := builtin.withCatalog FeatureCatalog.builtin
    (begun.startedIn visits 1).map (·.conditionPrefix) = ["AzureDisk", "AzureFile"] ∧
      begun.startedIn visits 1 =
        Descriptor.builtin.filter (· ∈ begun.startedIn visits 1) := by
  -- What is started is evaluated, and the law gives the order.
  intro visits begun
  obtain ⟨-, ordered, -, -⟩ :=
    started_iff_first_eligible new_builtin FeatureCatalog.builtin visits
  exact ⟨by decide +kernel, ordered 1⟩

end CsiOperator.Starter
