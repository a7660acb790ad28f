import CsiOperator.Proofs.Starter.Run

/-! Over any run every bundle starts at most once, and the ledger lists what was started. -/

namespace CsiOperator.Starter

/-- What the operator, its ledger and its starts so far say about one another. -/
structure Recorded (ds : List Descriptor) (starts : List Start) (s : Starter) : Prop where
  /-- The bundles are those of the drivers, in their order. -/
  descriptors : s.bundles.map (·.descriptor) = ds
  /-- No two drivers have one name. -/
  distinct : (ds.map (·.driver)).Nodup
  /-- A bundle runs when it has been started. -/
  running : ∀ b ∈ s.bundles, b.running = true ↔ b.descriptor ∈ starts.map (·.descriptor)
  /-- No bundle has been started twice. -/
  once : (starts.map (·.descriptor)).Nodup
  /-- Only bundles of the operator have been started. -/
  known : ∀ start ∈ starts, start.descriptor ∈ ds
  /-- The ledger lists the references of the started bundles. -/
  ledger : s.ledger.entries = starts.map (·.descriptor.relatedObject)
  /-- At every start the ledger lists the references up to the one of the bundle that starts. -/
  moments : ∀ k start, starts[k]? = some start →
    start.ledger.entries = (starts.take (k + 1)).map (·.descriptor.relatedObject)

namespace Recorded

variable {ds : List Descriptor} {starts : List Start} {s : Starter}

/-- Drivers of one name are one driver. -/
theorem driver_inj (kept : Recorded ds starts s) {d e : Descriptor} (left : d ∈ ds) (right : e ∈ ds)
    (same : d.driver = e.driver) : d = e :=
  List.inj_on_of_nodup_map kept.distinct left right same

/-- A bundle of the operator belongs to one of its drivers. -/
theorem descriptor_mem (kept : Recorded ds starts s) {b : Bundle} (member : b ∈ s.bundles) :
    b.descriptor ∈ ds := by
  -- The bundles have the descriptors of the drivers, one for each.
  rw [← kept.descriptors]
  exact List.mem_map_of_mem member

/-- The bundles that do not run yet are absent from the ledger. -/
theorem unrecorded (kept : Recorded ds starts s) : Unrecorded s.ledger s.bundles := by
  -- The ledger has references of started bundles, and bundles of one reference are one.
  constructor
  · have drivers := kept.distinct
    rw [← kept.descriptors, List.map_map] at drivers
    exact drivers
  · intro b member idle listed
    -- A listed reference belongs to a started bundle, and that bundle is the one at hand.
    rw [kept.ledger] at listed
    obtain ⟨start, started, same⟩ := List.mem_map.mp listed
    have descriptor := kept.driver_inj (kept.known start started) (kept.descriptor_mem member)
      (Descriptor.relatedObject_inj.mp same)
    have runs := (kept.running b member).mpr (List.mem_map.mpr ⟨start, started, descriptor⟩)
    simp [idle] at runs

/-- The drivers whose bundles a call starts. -/
theorem started_iff (kept : Recorded ds starts s) (isDue : Descriptor → Bool) {b : Bundle}
    (member : b ∈ s.bundles) :
    b.descriptor ∈ (startDue isDue s.ledger s.bundles).2.2.map (·.descriptor) ↔
      Starts isDue b = true := by
  -- Bundles with one descriptor are one bundle.
  have single : (s.bundles.map (·.descriptor)).Nodup := by
    rw [kept.descriptors]
    exact kept.distinct.of_map _
  rw [startDue_starts, List.mem_map]
  constructor
  · rintro ⟨other, begins, same⟩
    obtain ⟨present, begins⟩ := List.mem_filter.mp begins
    rwa [← List.inj_on_of_nodup_map single present member same]
  · exact fun begins => ⟨b, List.mem_filter.mpr ⟨member, begins⟩, rfl⟩

/-- An operator that has started nothing yet says nothing false. -/
theorem new (accepted : Starter.new ds = .ok s) (catalog : FeatureCatalog) :
    Recorded ds [] (s.withCatalog catalog) := by
  -- Acceptance gives distinct references, on which all else rests.
  obtain ⟨valid, bundles, ledger⟩ := new_ok accepted
  obtain ⟨-, -, drivers⟩ := (Descriptor.validateAll_ok_iff ds).mp valid
  -- Nothing has been started, so that only the bundles and their drivers need to be looked at.
  constructor
  case descriptors => simp [withCatalog, bundles, Function.comp_def]
  case distinct => exact drivers
  case running => simp [withCatalog, bundles]
  case ledger => simp [withCatalog, ledger, Ledger.empty]
  all_goals simp

/-- One call keeps what is said. -/
theorem turn (kept : Recorded ds starts s) (v : Visit) :
    Recorded ds (starts ++ (v.turn s).starts) (v.turn s).starter := by
  -- A turn is an activation of what is due, and everything is told of that.
  rw [Visit.turn_eq]
  dsimp only
  constructor
  case descriptors => simp [startDue_bundles, Function.comp_def, kept.descriptors]
  case distinct => exact kept.distinct
  case running =>
    intro b member
    simp only [startDue_bundles, List.mem_map] at member
    obtain ⟨old, member, rfl⟩ := member
    -- A bundle that runs now ran before, or is among those that have just been started.
    rw [List.map_append, List.mem_append, ← kept.running old member, kept.started_iff _ member]
    cases runs : old.running <;> simp [Starts, runs]
  case once =>
    rw [List.map_append, List.nodup_append']
    refine ⟨kept.once, ?_, ?_⟩
    · rw [startDue_starts]
      refine List.Nodup.sublist (List.filter_sublist.map _) ?_
      rw [kept.descriptors]
      exact kept.distinct.of_map _
    · -- A bundle that starts now does not run yet, so it has not been started before.
      intro d before now
      rw [startDue_starts] at now
      obtain ⟨b, member, rfl⟩ := List.mem_map.mp now
      obtain ⟨member, begins⟩ := List.mem_filter.mp member
      have runs := (kept.running b member).mpr before
      simp [Starts, runs] at begins
  case known =>
    intro start member
    rcases List.mem_append.mp member with before | now
    · exact kept.known start before
    · have named := List.mem_map_of_mem (f := (·.descriptor)) now
      rw [startDue_starts] at named
      obtain ⟨b, member, same⟩ := List.mem_map.mp named
      rw [← same]
      exact kept.descriptor_mem (List.mem_filter.mp member).1
  case ledger => simp [startDue_ledger kept.unrecorded, kept.ledger]
  case moments =>
    intro k start found
    -- The first moments are those of the earlier calls, and the others belong to this one.
    rcases Nat.lt_or_ge k starts.length with before | now
    · rw [List.getElem?_append_left before] at found
      rw [List.take_append_of_le_length before]
      exact kept.moments k start found
    · rw [List.getElem?_append_right now] at found
      rw [startDue_moments kept.unrecorded found, kept.ledger, ← List.map_append, List.take_append,
        List.take_of_length_le (by omega : starts.length ≤ k + 1), Nat.sub_add_comm now]

/-- Every run of calls keeps what is said. -/
theorem run (kept : Recorded ds starts s) (visits : List Visit) :
    Recorded ds (starts ++ s.starts visits) (s.after visits) := by
  -- Each call adds its own starts to those before it.
  induction visits generalizing starts s with
  | nil => simpa [Starter.starts, turns, after] using kept
  | cons v rest ih =>
    have later := ih (kept.turn v)
    rw [List.append_assoc] at later
    exact later

/-- The ledger has no reference twice. -/
theorem ledger_nodup (kept : Recorded ds starts s) : s.ledger.entries.Nodup := by
  -- Started bundles of one reference have one driver, and are therefore one bundle.
  rw [kept.ledger, ← Function.comp_def, ← List.map_map]
  refine List.Nodup.map_on (fun d left e right same => ?_) kept.once
  obtain ⟨first, firstStarted, rfl⟩ := List.mem_map.mp left
  obtain ⟨second, secondStarted, rfl⟩ := List.mem_map.mp right
  exact kept.driver_inj (kept.known first firstStarted) (kept.known second secondStarted)
    (Descriptor.relatedObject_inj.mp same)

/-- Later calls only append to the ledger. -/
theorem ledger_prefix (kept : Recorded ds starts s) (visits : List Visit) :
    s.ledger.entries <+: (s.after visits).ledger.entries := by
  -- Both ledgers are the starts so far, and the later run has the earlier ones in front.
  rw [kept.ledger, (kept.run visits).ledger, List.map_append]
  exact List.prefix_append _ _

/-- The names of the running bundles are those of the bundles that have been started. -/
theorem running_iff (kept : Recorded ds starts s) (name : String) :
    name ∈ s.running ↔ ∃ d ∈ ds, d ∈ starts.map (·.descriptor) ∧ d.conditionPrefix = name := by
  -- A bundle runs exactly when its driver has been started, and it bears the name of its driver.
  simp only [Starter.running, List.mem_map, List.mem_filter]
  constructor
  · rintro ⟨b, ⟨member, runs⟩, named⟩
    have started := List.mem_map.mp ((kept.running b member).mp runs)
    exact ⟨b.descriptor, kept.descriptor_mem member, started, named⟩
  · rintro ⟨d, described, started, named⟩
    rw [← kept.descriptors] at described
    obtain ⟨b, member, same⟩ := List.mem_map.mp described
    subst same
    exact ⟨b, ⟨member, (kept.running b member).mpr (List.mem_map.mpr started)⟩, named⟩

end Recorded

/--
Over any run of calls a bundle starts at most once, and it runs from then on.

The ledger has the references of the started bundles in the order of their starts, each of them from
the moment of its start on.
-/
theorem starts_recorded_once {ds : List Descriptor} {s : Starter} (accepted : new ds = .ok s)
    (catalog : FeatureCatalog) (visits : List Visit) :
    let begun := s.withCatalog catalog
    let started := begun.starts visits
    let now := begun.after visits
    -- No bundle is started twice, and all of them are bundles of the operator.
    ((started.map (·.descriptor)).Nodup ∧ ∀ start ∈ started, start.descriptor ∈ ds) ∧
    -- A bundle runs exactly when it has been started, and it still runs after any later calls.
    now.bundles.map (·.descriptor) = ds ∧
    (∀ b ∈ now.bundles, b.running = true ↔ b.descriptor ∈ started.map (·.descriptor)) ∧
    (∀ later, ∀ name ∈ now.running, name ∈ (begun.after (visits ++ later)).running) ∧
    -- The ledger is what has been started, without repetition, and later calls only append to it.
    now.ledger.entries = started.map (·.descriptor.relatedObject) ∧ now.ledger.entries.Nodup ∧
    (∀ later, now.ledger.entries <+: (begun.after (visits ++ later)).ledger.entries) ∧
    -- At each start the ledger has as many references as starts, and the last one is its own.
    ∀ k start, started[k]? = some start → start.ledger.size = k + 1 ∧
      start.ledger.entries.getLast? = some start.descriptor.relatedObject := by
  -- The run keeps the invariant from the accepted list, and each part is read off it.
  intro begun started now
  have kept : Recorded ds started now := by
    simpa using (Recorded.new accepted catalog).run visits
  refine ⟨⟨kept.once, kept.known⟩, kept.descriptors, kept.running, ?_, kept.ledger,
    kept.ledger_nodup, ?_, ?_⟩
  · -- What has been started stays among the starts of the longer run.
    intro later name running
    rw [after_append]
    obtain ⟨d, member, before, named⟩ := (kept.running_iff name).mp running
    refine ((kept.run later).running_iff name).mpr ⟨d, member, ?_, named⟩
    rw [List.map_append]
    exact List.mem_append_left _ before
  · intro later
    rw [after_append]
    exact kept.ledger_prefix later
  · -- The ledger at a start lists that start and the ones before it.
    intro k start found
    have entries := kept.moments k start found
    have within : k < started.length := (List.getElem?_eq_some_iff.mp found).1
    constructor
    · simp [Ledger.size, entries]
      omega
    · rw [entries, List.take_add_one, found]
      simp

/-- The builtin drivers start on two platforms, and not while the feature gate cannot be read. -/
theorem starts_recorded_once_builtin :
    let visits : List Visit :=
      [.ungatedOn .azure, .managedOn .azure, .managedOn .azure, .managedOn .gcp]
    let now := (builtin.withCatalog FeatureCatalog.builtin).after visits
    now.running = ["AzureDisk", "AzureFile", "GCPPD"] ∧ now.ledger.size = 3 ∧
      now.ledger.entries.Nodup := by
  -- What runs at the end is evaluated, and the law says that the ledger repeats nothing.
  intro visits now
  have ran : now.running = ["AzureDisk", "AzureFile", "GCPPD"] ∧ now.ledger.size = 3 := by
    decide +kernel
  obtain ⟨-, -, -, -, -, distinct, -⟩ :=
    starts_recorded_once new_builtin FeatureCatalog.builtin visits
  exact ⟨ran.1, ran.2, distinct⟩

end CsiOperator.Starter
