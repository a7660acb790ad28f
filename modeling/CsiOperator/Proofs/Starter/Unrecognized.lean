import CsiOperator.Descriptor.File
import CsiOperator.Proofs.Resource.Infrastructure
import CsiOperator.Proofs.Starter.Recorded
import CsiOperator.Proofs.Starter.Schedule

/-! No bundle starts on a platform that is not recognized, whatever the drivers are. -/

namespace CsiOperator

namespace Infrastructure

/-- The text of an object that does not report the name of a recognized platform. -/
def Unnamed (text : String) : Prop :=
  ∀ p ∈ Platform.recognized, platformName? (Json.Document.ofText text).root ≠ some p.name

instance (text : String) : Decidable (Unnamed text) :=
  inferInstanceAs (Decidable (∀ p ∈ Platform.recognized, _))

-- Nothing that leads to a name may be left out, and the name has to be a recognized one.
example :
    let object (status : String) : String := "\x7b\"metadata\":\x7b\x7d,\"spec\":\x7b\x7d" ++ status ++ "\x7d"
    let named (name : String) : String :=
      object (",\"status\":\x7b\"platformStatus\":\x7b\"type\":" ++ name ++ "\x7d\x7d")
    (∀ text ∈ [object "", object ",\"status\":null", object ",\"status\":\x7b\x7d", named "null",
      named "\"\"", named "\"aws\"", named "\"Unknown\""], Unnamed text) ∧
      ¬ Unnamed (named "\"AWS\"") := by decide +kernel

end Infrastructure

namespace Descriptor

/-- A driver that is accepted has a recognized platform. -/
theorem validate_platform {d : Descriptor} (valid : d.validate = .ok ()) :
    d.platform ∈ Platform.recognized := by
  -- The last of the checks refuses the unknown platform.
  rw [Platform.mem_recognized_iff]
  intro unknown
  rw [validate, unknown] at valid
  split_ifs at valid with _ _ other
  exact other rfl

/-- A driver on a recognized platform runs where an object reports its name, if its feature is on. -/
theorem shouldRun_iff {d : Descriptor} (recognized : d.platform ∈ Platform.recognized)
    {text : String} {i : Infrastructure} (reads : Json.decode Infrastructure.read text = .ok i)
    (gate : FeatureGate) (catalog : FeatureCatalog) :
    d.shouldRun i gate catalog = true ↔
      Infrastructure.platformName? (Json.Document.ofText text).root = some d.platform.name ∧
        ∀ feature ∈ d.requiredFeature, catalog.isEnabled gate feature = true := by
  -- The platform that is read is told by the name in the text.
  obtain ⟨root, -⟩ := (Decode.decode_ok_iff ..).mp reads
  -- What is read stands for the platform of the driver only under the name of that platform.
  have named : i.platform = some d.platform ↔
      Infrastructure.platformName? (Json.Document.ofText text).root = some d.platform.name := by
    rw [← Infrastructure.read_platform root, Option.map_eq_some_iff]
    constructor
    · rintro ⟨name, reports, means⟩
      rw [reports, (Platform.ofName_eq_iff recognized name).mp means]
    · intro reports
      exact ⟨d.platform.name, reports, Platform.ofName_name d.platform⟩
  rw [shouldRun, Bool.and_eq_true, beq_iff_eq, named]
  cases d.requiredFeature <;> simp

/-- A drivers file that loads has drivers that an operator accepts. -/
theorem load_accepted {yaml : String} {ds : List Descriptor} (loads : load yaml = .ok ds) :
    ∃ s, Starter.new ds = .ok s := by
  -- Loading ends with the check with which an operator begins.
  obtain ⟨read, -, loads⟩ := (Failure.bind_ok_iff ..).mp loads
  obtain ⟨⟨⟩, valid, loads⟩ := (Failure.bind_ok_iff ..).mp loads
  obtain rfl : read = ds := Except.ok.inj loads
  refine ⟨⟨read.map fun d => ⟨d, false⟩, Ledger.empty, FeatureCatalog.builtin⟩, ?_⟩
  rw [Starter.new, valid]
  rfl

end Descriptor

namespace Starter

/-- Whatever the reader answers for the cluster has been read of a text that reports no recognized
platform. -/
def Visit.Unnamed (v : Visit) : Prop :=
  -- A reader that fails answers nothing, which is just as well.
  ∀ i, v.infrastructure clusterName = .ok i →
    ∃ text, Infrastructure.Unnamed text ∧ Json.decode Infrastructure.read text = .ok i

/-- A call does nothing where no recognized platform is reported. -/
theorem Visit.Unnamed.turn {v : Visit} (unnamed : v.Unnamed) {s : Starter}
    (recognized : ∀ b ∈ s.bundles, b.descriptor.platform ∈ Platform.recognized) :
    (v.turn s).starts = [] ∧ (v.turn s).starter = s := by
  -- No bundle is eligible, whatever the gate is, and so none is due.
  have idle : ∀ b ∈ s.bundles, v.isEligible s.catalog b.descriptor = false := by
    intro b member
    rw [Bool.eq_false_iff, Ne, v.isEligible_iff]
    rintro ⟨-, i, gate, answers, -, runs⟩
    obtain ⟨text, blank, reads⟩ := unnamed i answers
    obtain ⟨reports, -⟩ := (Descriptor.shouldRun_iff (recognized b member) reads gate _).mp runs
    exact blank b.descriptor.platform (recognized b member) reports
  rw [v.turn_eq, startDue_idle idle]
  exact ⟨rfl, rfl⟩

/-- A run of calls does nothing where no recognized platform is reported. -/
theorem run_unnamed {visits : List Visit} (unnamed : ∀ v ∈ visits, v.Unnamed) {s : Starter}
    (recognized : ∀ b ∈ s.bundles, b.descriptor.platform ∈ Platform.recognized) :
    s.starts visits = [] ∧ s.after visits = s := by
  -- By induction on the calls, each of which starts nothing and changes nothing.
  induction visits with
  | nil => exact ⟨rfl, rfl⟩
  | cons v rest ih =>
    -- The first call leaves the operator to the others as it is.
    obtain ⟨first, others⟩ := List.forall_mem_cons.mp unnamed
    obtain ⟨none, same⟩ := first.turn recognized
    obtain ⟨starts, after⟩ := ih others
    constructor
    · rw [starts_cons, none, same, starts, List.nil_append]
    · rw [Starter.after, same, after]

/-- The operator keeps to drivers on recognized platforms. -/
theorem Recorded.recognized {ds : List Descriptor} {starts : List Start} {s : Starter}
    (kept : Recorded ds starts s) (valid : ∀ d ∈ ds, d.validate = .ok ()) :
    ∀ b ∈ s.bundles, b.descriptor.platform ∈ Platform.recognized := by
  -- The bundles are those of the drivers, and acceptance has looked at each platform.
  intro b member
  exact Descriptor.validate_platform (valid _ (kept.descriptor_mem member))

/--
Nothing is ever started on a cluster that reports no recognized platform.

A driver that names such a platform itself is not accepted, so that two unknown platforms never match.
Calls of the operator leave it as it is then, one after another as well as overlapping.
-/
theorem unrecognized_starts_nothing {ds : List Descriptor} {s : Starter} (accepted : new ds = .ok s)
    (catalog : FeatureCatalog) (history : List Visit) :
    let now := (s.withCatalog catalog).after history
    -- What is said of accepted drivers is said of those of any drivers file.
    (∀ yaml loaded, Descriptor.load yaml = .ok loaded → ∃ begun, new loaded = .ok begun) ∧
    (∀ d ∈ ds, d.platform ∈ Platform.recognized) ∧
    -- A driver runs only where the name of its own platform is reported.
    (∀ text i, Json.decode Infrastructure.read text = .ok i → ∀ d ∈ ds, ∀ gate,
      d.shouldRun i gate catalog = true ↔
        Infrastructure.platformName? (Json.Document.ofText text).root = some d.platform.name ∧
          ∀ feature ∈ d.requiredFeature, catalog.isEnabled gate feature = true) ∧
    (∀ visits : List Visit, (∀ v ∈ visits, v.Unnamed) →
      now.starts visits = [] ∧ now.after visits = now) ∧
    ∀ calls : Nat → Visit, (∀ i, (calls i).Unnamed) → ∀ schedule : List Action,
      let crowd := (Crowd.start calls now).run calls schedule
      Event.started crowd.log = [] ∧ crowd.starter = now := by
  -- Both runs start from an operator whose drivers name recognized platforms.
  intro now
  obtain ⟨valid, -⟩ := (Descriptor.validateAll_ok_iff ds).mp (new_ok accepted).1
  have kept := (Recorded.new accepted catalog).run history
  have bundles := kept.recognized valid
  have known : ∀ d ∈ ds, d.platform ∈ Platform.recognized :=
    fun d member => Descriptor.validate_platform (valid d member)
  refine ⟨fun yaml loaded => Descriptor.load_accepted, known, ?_, ?_, ?_⟩
  · intro text i reads d member gate
    exact Descriptor.shouldRun_iff (known d member) reads gate catalog
  · intro visits unnamed
    exact run_unnamed unnamed bundles
  · -- Whatever the schedule is, the calls come to what they come to one after another.
    intro calls unnamed schedule crowd
    have serial : Serial calls now crowd :=
      (Sound.run ⟨Serial.start calls now, Apart.start calls now⟩ schedule).serial
    have quiet : ∀ v ∈ (Event.releases crowd.log).map calls, v.Unnamed := by
      intro v member
      obtain ⟨i, -, rfl⟩ := List.mem_map.mp member
      exact unnamed i
    obtain ⟨starts, after⟩ := run_unnamed quiet bundles
    exact ⟨serial.starts.trans starts, serial.starter.trans after⟩

/-- A sync of a managed operator whose infrastructure is read of a text. -/
def Visit.reading (text : String) : Visit where
  -- The text is all that is left open; the other readers answer as usual.
  managementState := .ok (some .managed)
  infrastructure _ := (Json.decode Infrastructure.read text).mapError fun fault =>
    .api (.response text fault)
  featureGate name := .ok (FeatureGate.withFeatureSet name "")
  demand := .sync

/-- A text without the name of a recognized platform is all that such a sync gets to see. -/
theorem Visit.reading_unnamed {text : String} (unnamed : Infrastructure.Unnamed text) :
    (Visit.reading text).Unnamed := by
  -- An object that is read has been decoded from the text, which has no recognized name.
  intro i answers
  refine ⟨text, unnamed, ?_⟩
  -- The reader has no other source than the text.
  change (Json.decode Infrastructure.read text).mapError _ = _ at answers
  cases read : Json.decode Infrastructure.read text with
  | error fault =>
    rw [read] at answers
    cases answers
  | ok infrastructure =>
    rw [read] at answers
    cases answers
    rfl

/-- The text of an object that reports a platform called unknown. -/
def unknownPlatform : String :=
  -- The name is spelled like the platform that stands for all others.
  "\x7b\"metadata\":\x7b\"name\":\"cluster\"\x7d,\"spec\":\x7b\x7d," ++
    "\"status\":\x7b\"platformStatus\":\x7b\"type\":\"Unknown\"\x7d\x7d\x7d"

/-- Builtin drivers that run already keep running there, and no other one starts. -/
theorem unrecognized_starts_nothing_unknown :
    let now := (builtin.withCatalog FeatureCatalog.builtin).after [.managedOn .azure]
    let visit := Visit.reading unknownPlatform
    new Descriptor.builtin = .ok builtin ∧ now.running = ["AzureDisk", "AzureFile"] ∧
      (Json.decode Infrastructure.read unknownPlatform).isOk = true ∧ visit.Unnamed ∧
      now.starts [visit] = [] ∧ now.after [visit] = now := by
  -- What runs before is evaluated, and the law says that the visit changes nothing.
  intro now visit
  have unnamed : visit.Unnamed := Visit.reading_unnamed (by decide +kernel)
  obtain ⟨-, -, -, run, -⟩ :=
    unrecognized_starts_nothing new_builtin FeatureCatalog.builtin [.managedOn .azure]
  obtain ⟨starts, after⟩ := run [visit] (List.forall_mem_singleton.mpr unnamed)
  exact ⟨new_builtin, by decide +kernel, by decide +kernel, unnamed, starts, after⟩

end Starter

end CsiOperator
