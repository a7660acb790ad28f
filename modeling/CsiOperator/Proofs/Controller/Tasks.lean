import CsiOperator.Proofs.Starter.Hosted
import CsiOperator.Proofs.Starter.Recorded
import Mathlib.Algebra.BigOperators.Group.List.Basic
import Mathlib.Algebra.GroupWithZero.Nat

/-! The tasks of an operator are the controllers of its running bundles, each of them once. -/

namespace CsiOperator

open scoped List

/-- What the names of the controllers that every bundle has end with. -/
def Controller.endings : List String :=
  -- None of them is the end of another, so names with different endings differ.
  ["CSIDriverOperatorStaticController", "CSIDriverOperatorCRController",
    "CSIDriverOperatorDeploymentController"]

/-- The controllers that every bundle has. -/
def Descriptor.standard (d : Descriptor) : List Controller :=
  d.controllers.take 3

namespace Controller

/-- The controller is defined here, and not elsewhere. -/
def isStandard : Controller → Bool
  -- Removal and extra controllers are the ones that are not.
  | external _ => false
  | _ => true

/-- A name with one of the endings tells where its ending begins. -/
theorem ending_inj {a b s t : String} (left : s ∈ endings) (right : t ∈ endings)
    (same : a ++ s = b ++ t) : a = b ∧ s = t := by
  -- All endings agree in their last ten letters, and differ in the one before these.
  have told : ∀ s ∈ endings, ∀ t ∈ endings,
      s.toList.reverse[10]? = t.toList.reverse[10]? → s = t := by decide +kernel
  have long : ∀ s ∈ endings, 10 < s.toList.reverse.length := by decide +kernel
  have letters : (a ++ s).toList.reverse[10]? = (b ++ t).toList.reverse[10]? := by rw [same]
  simp only [String.toList_append, List.reverse_append] at letters
  rw [List.getElem?_append_left (long s left), List.getElem?_append_left (long t right)] at letters
  obtain rfl := told s left t right letters
  -- Once the endings are one, what stands before them is one, too.
  refine ⟨?_, rfl⟩
  have chars := congrArg String.toList same
  simp only [String.toList_append] at chars
  exact String.toList_inj.mp (List.append_cancel_right chars)

/-- Whatever bundles are called, no two of their standard controllers have one name. -/
theorem names_nodup {bundles : List String} (distinct : bundles.Nodup) :
    (bundles.flatMap fun bundle => endings.map (bundle ++ ·)).Nodup := by
  -- Names are compared within one bundle first, and then between two of them.
  rw [List.nodup_flatMap]
  constructor
  · -- Within one bundle the endings differ.
    intro bundle _
    apply List.Nodup.map_on
    · intro s left t right same
      exact (ending_inj left right same).2
    · decide +kernel
  · -- Two bundles would have to be one for a name of theirs to be one.
    apply distinct.imp
    intro a b different name ofA ofB
    obtain ⟨s, left, rfl⟩ := List.mem_map.mp ofA
    obtain ⟨t, right, same⟩ := List.mem_map.mp ofB
    exact different (ending_inj right left same).1.symm

end Controller

namespace Descriptor

/-- The names of the standard controllers of a driver. -/
theorem standard_names (d : Descriptor) :
    d.standard.map Controller.name = Controller.endings.map (d.conditionPrefix ++ ·) := rfl

/-- The manager of a driver has the controllers of the driver, in their order. -/
theorem manager_controllers (d : Descriptor) : d.manager.controllers = d.controllers := by
  -- Each controller from elsewhere is appended to those before it.
  have extra : ∀ (names : List String) (m : Manager),
      (names.foldl (fun m name => m.withController (.external name)) m).controllers =
        m.controllers ++ names.map .external := by
    intro names
    induction names with
    | nil => intro m; simp
    | cons name rest ih =>
      intro m
      rw [List.foldl_cons, ih]
      simp [Manager.withController]
  rw [manager, extra]
  cases removal : d.removal <;> simp [controllers, removal, Manager.new, Manager.withController]

/-- A driver has three controllers, and those from elsewhere. -/
theorem controllers_length (d : Descriptor) :
    d.controllers.length = 3 + d.removal.toList.length + d.extraControllers.length := by
  simp only [controllers, List.length_append, List.length_cons, List.length_nil, List.length_map]

/-- Without the controllers from elsewhere, a driver has the standard ones. -/
theorem controllers_filter (d : Descriptor) :
    d.controllers.filter Controller.isStandard = d.standard := by
  -- Nothing from elsewhere is left, and nothing else goes.
  have elsewhere (names : List String) :
      (names.map Controller.external).filter Controller.isStandard = [] := by
    simp [Controller.isStandard]
  rw [controllers, List.filter_append, List.filter_append, elsewhere, elsewhere, List.append_nil,
    List.append_nil]
  rfl

end Descriptor

namespace Supervisor

/-- A manager appends a task for each of its controllers. -/
theorem start_eq (m : Manager) (s : Supervisor) :
    m.start s = { s with tasks := s.tasks ++ m.controllers.map (⟨·, s.signal⟩) } := by
  -- The signal stays the same while the tasks grow.
  unfold Manager.start
  generalize m.controllers = controllers
  induction controllers generalizing s with
  | nil => simp
  | cons controller rest ih =>
    rw [List.foldl_cons, ih]
    simp [spawn]

/-- The tasks of drivers are those of their controllers, one driver after another. -/
theorem startAll_eq (s : Supervisor) (ds : List Descriptor) :
    s.startAll ds =
      { s with tasks := s.tasks ++ (ds.flatMap (·.controllers)).map (⟨·, s.signal⟩) } := by
  -- The tasks of each driver come behind those that are there by then.
  unfold startAll
  induction ds generalizing s with
  | nil => simp
  | cons d rest ih =>
    rw [List.foldl_cons, ih, start_eq, Descriptor.manager_controllers]
    simp

/-- Tasks that are started under a new supervisor have its signal, and all stop when it is given. -/
theorem startAll_new (signal : Signal) (ds : List Descriptor) :
    let s := (new signal).startAll ds
    s.tasks = (ds.flatMap (·.controllers)).map (⟨·, signal⟩) ∧ s.running = s.tasks ∧
      s.shutdown.running = [] := by
  -- A supervisor that has just begun has no other tasks, and its signal has not been given.
  intro s
  have tasks : s.tasks = (ds.flatMap (·.controllers)).map (⟨·, signal⟩) := by
    simp only [s, startAll_eq, new, List.nil_append]
  have given : s.signal = signal ∧ s.stopped = false := by simp only [s, startAll_eq, new, and_self]
  refine ⟨tasks, by simp [running, given.2], ?_⟩
  -- Afterwards a task would have to have another signal to be running still.
  simp only [running, shutdown, given.1, List.filter_eq_nil_iff]
  intro task member
  rw [tasks] at member
  obtain ⟨c, -, rfl⟩ := List.mem_map.mp member
  simp

end Supervisor

namespace Starter.Recorded

variable {ds : List Descriptor} {starts : List Start} {s : Starter}

/-- The running bundles belong to the drivers that have been started, perhaps in another order. -/
theorem running_perm (kept : Recorded ds starts s) :
    (s.bundles.filter (·.running)).map (·.descriptor) ~ starts.map (·.descriptor) := by
  -- Neither list names a driver twice, so that only the members matter.
  have bundles : ((s.bundles.filter (·.running)).map (·.descriptor)).Nodup := by
    apply List.Nodup.sublist (List.filter_sublist.map _)
    rw [kept.descriptors]
    exact kept.distinct.of_map _
  rw [List.perm_ext_iff_of_nodup bundles kept.once]
  intro d
  constructor
  · intro member
    obtain ⟨b, among, rfl⟩ := List.mem_map.mp member
    obtain ⟨present, runs⟩ := List.mem_filter.mp among
    exact (kept.running b present).mp runs
  · intro started
    obtain ⟨start, member, rfl⟩ := List.mem_map.mp started
    have known := kept.known start member
    rw [← kept.descriptors] at known
    obtain ⟨b, present, same⟩ := List.mem_map.mp known
    have runs : b.running = true := (kept.running b present).mpr (same ▸ started)
    exact List.mem_map.mpr ⟨b, List.mem_filter.mpr ⟨present, runs⟩, same⟩

/-- A standard controller of a bundle belongs to a started driver exactly when the bundle runs. -/
theorem standard_started_iff (kept : Recorded ds starts s)
    (prefixes : (ds.map (·.conditionPrefix)).Nodup) {b : Bundle} (member : b ∈ s.bundles)
    {c : Controller} (standard : c ∈ b.descriptor.standard) :
    c ∈ (starts.map (·.descriptor)).flatMap (·.standard) ↔ b.running = true := by
  -- A bundle runs when its driver has been started, and names tell drivers apart.
  rw [kept.running b member, List.mem_flatMap]
  constructor
  · rintro ⟨d, started, also⟩
    -- The name of the controller begins with the name of either driver.
    have left := List.mem_map_of_mem (f := Controller.name) standard
    have right := List.mem_map_of_mem (f := Controller.name) also
    rw [Descriptor.standard_names] at left right
    obtain ⟨_, first, named⟩ := List.mem_map.mp left
    obtain ⟨_, second, same⟩ := List.mem_map.mp right
    have bundle := (Controller.ending_inj first second (named.trans same.symm)).1
    obtain ⟨start, began, rfl⟩ := List.mem_map.mp started
    rw [List.inj_on_of_nodup_map prefixes (kept.descriptor_mem member)
      (kept.known start began) bundle]
    exact started
  · intro started
    exact ⟨b.descriptor, started, standard⟩

/-- A standard controller of a bundle is among those of the started drivers once if the bundle runs, and
not at all otherwise. -/
theorem standard_count (kept : Recorded ds starts s) (prefixes : (ds.map (·.conditionPrefix)).Nodup)
    {b : Bundle} (member : b ∈ s.bundles) {c : Controller} (standard : c ∈ b.descriptor.standard) :
    ((starts.map (·.descriptor)).flatMap (·.controllers)).count c = if b.running then 1 else 0 := by
  -- Controllers from elsewhere are never counted, and the others have different names.
  have here : c.isStandard = true := by
    rw [← Descriptor.controllers_filter] at standard
    exact (List.mem_filter.mp standard).2
  have single : ((starts.map (·.descriptor)).flatMap (·.standard)).Nodup := by
    apply List.Nodup.of_map Controller.name
    have distinct : ((starts.map (·.descriptor)).map (·.conditionPrefix)).Nodup := by
      apply kept.once.map_on
      intro d left e right same
      obtain ⟨first, began, rfl⟩ := List.mem_map.mp left
      obtain ⟨second, alsoBegan, rfl⟩ := List.mem_map.mp right
      exact List.inj_on_of_nodup_map prefixes (kept.known first began)
        (kept.known second alsoBegan) same
    simpa [List.map_flatMap, List.flatMap_map, Descriptor.standard_names] using
      Controller.names_nodup distinct
  rw [← List.count_filter here, List.filter_flatMap]
  simp only [Descriptor.controllers_filter, single.count,
    kept.standard_started_iff prefixes member standard]

/-- A controller of a started driver belongs to a bundle that runs. -/
theorem controller_running (kept : Recorded ds starts s) {c : Controller}
    (listed : c ∈ (starts.map (·.descriptor)).flatMap (·.controllers)) :
    ∃ b ∈ s.bundles, b.running = true ∧ c ∈ b.descriptor.controllers := by
  -- What has been started belongs to a bundle that runs now, which has all its controllers.
  obtain ⟨d, begun, its⟩ := List.mem_flatMap.mp listed
  obtain ⟨b, runs, rfl⟩ := List.mem_map.mp (kept.running_perm.mem_iff.mpr begun)
  obtain ⟨present, runs⟩ := List.mem_filter.mp runs
  exact ⟨b, present, runs, its⟩

/-- There are as many controllers of started drivers as the running bundles have. -/
theorem controllers_count (kept : Recorded ds starts s) :
    ((starts.map (·.descriptor)).flatMap (·.controllers)).length =
      ((s.bundles.filter (·.running)).map fun b =>
        3 + b.descriptor.removal.toList.length + b.descriptor.extraControllers.length).sum := by
  -- The order in which bundles have been started does not matter for their number.
  rw [List.length_flatMap, ← (kept.running_perm.map (·.controllers.length)).sum_eq, List.map_map]
  simp only [Function.comp_def, Descriptor.controllers_length]

end Starter.Recorded

namespace Starter

/--
The tasks of an operator are the controllers of the bundles that it has started, in that order.

The controllers of one bundle are its standard ones, the one that removes an earlier installation, if
there is one, and its further ones. A bundle that does not run has no task. The tasks come about along
the run, call by call, and the operator is what it would be without a supervisor.
-/
theorem tasks_of_running {ds : List Descriptor} {s : Starter} (accepted : new ds = .ok s)
    (catalog : FeatureCatalog) (visits : List Visit) (signal : Signal) :
    let begun := s.withCatalog catalog
    let started := (begun.starts visits).map (·.descriptor)
    let host := (Hosted.new begun signal).after visits
    let now := host.starter
    let supervisor := host.supervisor
    now = begun.after visits ∧
    supervisor.tasks.map (·.controller) = started.flatMap (fun d =>
      [.statics (Controller.staticsName d.conditionPrefix) d.staticAssets,
        .driverObject (Controller.driverObjectName d.conditionPrefix) d.driver,
        .deployment (Controller.deploymentName d.conditionPrefix) d.deploymentAsset] ++
        d.removal.toList.map .external ++ d.extraControllers.map .external) ∧
    -- No bundle has been started twice, and its standard controllers are there once if it runs.
    started.Nodup ∧
    (∀ b ∈ now.bundles, ∀ c ∈ b.descriptor.standard,
      (supervisor.tasks.map (·.controller)).count c = if b.running then 1 else 0) ∧
    (∀ task ∈ supervisor.tasks, ∃ b ∈ now.bundles, b.running = true ∧
      task.controller ∈ b.descriptor.controllers) ∧
    -- Their number follows from the bundles that run.
    supervisor.tasks.length = ((now.bundles.filter (·.running)).map fun b =>
      3 + b.descriptor.removal.toList.length + b.descriptor.extraControllers.length).sum ∧
    -- All of them run until the one signal of the supervisor is given.
    (∀ task ∈ supervisor.tasks, task.signal = signal) ∧ supervisor.running = supervisor.tasks ∧
    supervisor.shutdown.running = [] ∧
    -- The names of the standard controllers differ for the bundles of the list, and for any others.
    (ds.flatMap fun d => d.standard.map Controller.name).Nodup ∧
    ∀ bundles : List String, bundles.Nodup → (bundles.flatMap fun bundle =>
      [Controller.staticsName bundle, Controller.driverObjectName bundle,
        Controller.deploymentName bundle]).Nodup := by
  intro begun started host now supervisor
  -- The run hands all its starts to the supervisor, in order, and leaves the operator alone.
  have run : host = ⟨begun.after visits, (Supervisor.new signal).startAll started⟩ :=
    (Hosted.new begun signal).after_eq visits
  have same : now = begun.after visits := congrArg Hosted.starter run
  have hosted : supervisor = (Supervisor.new signal).startAll started :=
    congrArg Hosted.supervisor run
  have kept : Recorded ds (begun.starts visits) now := by
    rw [same]
    simpa using (Recorded.new accepted catalog).run visits
  obtain ⟨-, prefixes, -⟩ := (Descriptor.validateAll_ok_iff ds).mp (new_ok accepted).1
  obtain ⟨tasks, running, stopped⟩ := Supervisor.startAll_new signal started
  rw [← hosted] at tasks running stopped
  have controllers : supervisor.tasks.map (·.controller) = started.flatMap (·.controllers) := by
    simp [tasks, Function.comp_def]
  refine ⟨same, controllers, kept.once, ?_, ?_, ?_, ?_, running, stopped, ?_, fun bundles distinct =>
    Controller.names_nodup distinct⟩
  · intro b member c standard
    rw [controllers]
    exact kept.standard_count prefixes member standard
  · intro task member
    have listed := List.mem_map_of_mem (f := (·.controller)) member
    rw [controllers] at listed
    exact kept.controller_running listed
  · rw [← kept.controllers_count, ← controllers, List.length_map]
  · intro task member
    rw [tasks] at member
    obtain ⟨c, -, rfl⟩ := List.mem_map.mp member
    rfl
  · -- The bundles of the list have different names to begin with.
    simpa [List.flatMap_map, Descriptor.standard_names] using Controller.names_nodup prefixes

/-- Drivers of which one is called what a controller of another one is called. -/
def nested : List Descriptor := [
  -- The name of the second driver is what a controller of the first one is called.
  ((Descriptor.new "A" .azure "a.csi").withExtraController "X").withExtraController "Y",
  (Descriptor.new "ACSIDriverOperatorStaticController" .azure "b.csi").withRemoval "R",
  Descriptor.new "B" .gcp "c.csi"]

/-- Two of them start in the second of three calls, with nine controllers whose names all differ. -/
theorem tasks_of_running_nested :
    let begun : Starter := ⟨nested.map fun d => ⟨d, false⟩, Ledger.empty, FeatureCatalog.builtin⟩
    let visits := [Visit.ungatedOn .azure, .managedOn .azure, .managedOn .azure]
    let host := (Hosted.new (begun.withCatalog FeatureCatalog.builtin) ⟨7⟩).after visits
    new nested = .ok begun ∧
      host.supervisor.tasks.map (·.controller.name) = ["ACSIDriverOperatorStaticController",
        "ACSIDriverOperatorCRController", "ACSIDriverOperatorDeploymentController", "X", "Y",
        "ACSIDriverOperatorStaticControllerCSIDriverOperatorStaticController",
        "ACSIDriverOperatorStaticControllerCSIDriverOperatorCRController",
        "ACSIDriverOperatorStaticControllerCSIDriverOperatorDeploymentController", "R"] ∧
      (∀ task ∈ host.supervisor.tasks, task.signal = ⟨7⟩) ∧
      (nested.flatMap fun d => d.standard.map Controller.name).Nodup := by
  -- The general result gives the signals and the names, and the tasks themselves are evaluated.
  intro begun visits host
  have accepted : new nested = .ok begun := by decide +kernel
  have named := tasks_of_running accepted FeatureCatalog.builtin visits ⟨7⟩
  obtain ⟨-, -, -, -, -, -, signals, -, -, distinct, -⟩ := named
  exact ⟨accepted, by decide +kernel, signals, distinct⟩

end Starter

end CsiOperator
