import CsiOperator.Proofs.Publication.Interleaving
import CsiOperator.Proofs.Starter.Recorded
import CsiOperator.Proofs.Starter.Schedule

/-! Operators that follow one another publish no more than what they have decided to start. -/

namespace CsiOperator

namespace Starter

/-- Whatever a call does is put at the end of the log. -/
theorem Crowd.proceed_log (i : Nat) (rest : Routine Reply) (w : Crowd) :
    w.log <+: (w.proceed i rest).log := by
  -- The call goes on until it has to wait, and every question on its way is put down.
  induction rest generalizing w with
  | done reply => exact List.prefix_append ..
  | ask question next ih =>
    cases question with
    | acquire => exact List.prefix_rfl
    | release starter starts =>
      refine List.IsPrefix.trans ?_ (ih () _)
      exact List.prefix_append ..
    | _ => exact List.prefix_append ..

/-- Whatever happens to a call is put at the end of the log. -/
theorem Crowd.step_log (visits : Nat → Visit) (w : Crowd) (action : Action) :
    w.log <+: (w.step visits action).log := by
  -- One case for each action; dropping a call writes down that it ended.
  cases action with
  | advance i =>
    simp only [Crowd.step, Crowd.advance]
    -- A call that goes on has got what it waits for, which is put down before the rest.
    split
    · split
      · refine List.IsPrefix.trans ?_ (Crowd.proceed_log ..)
        exact List.prefix_append ..
      · exact List.prefix_rfl
    · split
      · refine List.IsPrefix.trans ?_ (Crowd.proceed_log ..)
        exact List.prefix_append ..
      · exact List.prefix_rfl
    · exact List.prefix_rfl
  | drop i =>
    simp only [Crowd.step, Crowd.drop]
    split
    · exact List.prefix_append ..
    · exact List.prefix_rfl

/-- What has been started stays among the starts. -/
theorem Crowd.started_step (visits : Nat → Visit) (w : Crowd) (action : Action) :
    Event.started w.log <+: Event.started (w.step visits action).log := by
  -- Events are only put behind others, so the starts among them are too.
  obtain ⟨more, appended⟩ := w.step_log visits action
  rw [← appended, Event.started_append]
  exact List.prefix_append ..

/-- However calls overlap, the ledger lists what has been started. -/
theorem Sound.recorded {ds : List Descriptor} {s : Starter} (accepted : Starter.new ds = .ok s)
    (catalog : FeatureCatalog) {visits : Nat → Visit} {w : Crowd}
    (sound : Sound visits (s.withCatalog catalog) w) :
    Recorded ds (Event.started w.log) w.starter := by
  -- The calls are served one after another, so what a serial run records holds of them.
  have kept := (Recorded.new accepted catalog).run ((Event.releases w.log).map visits)
  rw [← sound.serial.starter, ← sound.serial.starts] at kept
  exact kept

end Starter

namespace Publication

open Api (Outcome Store Traffic)
open Starter (Crowd Sound Visit)
open Starter.Event (started)

/-- An operator before its first call, and what its calls will find outside. -/
structure Incarnation where
  /-- Its drivers. -/
  drivers : List Descriptor
  /-- The operator. -/
  starter : Starter
  /-- Its drivers have been accepted. -/
  accepted : Starter.new drivers = .ok starter
  /-- The features that each named set switches on. -/
  catalog : FeatureCatalog
  /-- What each call finds. -/
  visits : Nat → Visit

/-- The calls of an operator before any of them has begun. -/
def Incarnation.crowd (n : Incarnation) : Crowd :=
  Crowd.start n.visits (n.starter.withCatalog n.catalog)

/-- A server, and the operators that follow one another in front of it. -/
structure Cluster where
  /-- The server and the publications of all operators. -/
  world : World
  /-- The operator of the day, as it began. -/
  incarnation : Incarnation
  /-- That operator and its calls. -/
  crowd : Crowd
  /-- The starts of the operators before it. -/
  earlier : List Start
  /-- The references that others have put into the record. -/
  foreign : List RelatedObject

namespace Cluster

/-- The references of the record. -/
def listed (c : Cluster) : List RelatedObject :=
  (c.world.store.object.map (·.content)).getD []

/-- The references to the objects of all bundles that have been started so far. -/
def decided (c : Cluster) : List RelatedObject :=
  (c.earlier ++ started c.crowd.log).map (·.descriptor.relatedObject)

/-- The references of the record are those of the object that the server has. -/
theorem listed_eq {c : Cluster} {r : Record} (present : c.world.store.object = some r) :
    c.listed = r.content := by
  simp [listed, present]

/-- A first operator in front of a server. -/
def start (store : Store (List RelatedObject)) (n : Incarnation) : Cluster where
  -- What the record has had before is put down to others.
  world := Traffic.start store
  incarnation := n
  crowd := n.crowd
  earlier := []
  foreign := (store.object.map (·.content)).getD []

/-- The ledger as it is found while bundles are being started, with its first references. -/
def ledgerOf (c : Cluster) (size : Nat) : Ledger :=
  ⟨c.crowd.starter.ledger.entries.take size⟩

/-- A call of the operator goes on or is dropped. -/
def advance (c : Cluster) (action : Starter.Action) : Cluster :=
  { c with crowd := c.crowd.step c.incarnation.visits action }

/-- Another operator begins with an empty ledger, perhaps amid publications of the one before. -/
def restart (c : Cluster) (next : Incarnation) : Cluster where
  -- Publications of the operator that ends may still be under way, so the world stays.
  world := c.world
  incarnation := next
  crowd := next.crowd
  earlier := c.earlier ++ started c.crowd.log
  foreign := c.foreign

/-- Something happens at the server, with references that others have not put there before. -/
def inWorld (c : Cluster) (world : World) (new : List RelatedObject) : Cluster :=
  { c with world, foreign := c.foreign ++ new }

section Views

variable (c : Cluster) (world : World) (new : List RelatedObject)

@[simp] theorem inWorld_world : (c.inWorld world new).world = world := rfl

@[simp] theorem inWorld_decided : (c.inWorld world new).decided = c.decided := rfl

@[simp] theorem inWorld_foreign : (c.inWorld world new).foreign = c.foreign ++ new := rfl

end Views

/-- What happens to an operator, to its publications or at the server. -/
inductive Happening where
  /-- A call of the operator goes on or is dropped. -/
  | call (action : Starter.Action)
  /-- Another operator takes its place. -/
  | restart (next : Incarnation)
  /-- A publication begins, and finds that many references in the ledger. -/
  | publish (i size : Nat)
  /-- Another client writes the record. -/
  | write (version : String) (objects : List RelatedObject)
  /-- Another client removes the record. -/
  | remove
  /-- The server serves the request of a publication. -/
  | serve (i : Nat) (outcome : Outcome)

/-- One happening. -/
inductive Step (c : Cluster) : Happening → Cluster → Prop
  /-- A call goes on, or is dropped. -/
  | call (action : Starter.Action) : Step c (.call action) (c.advance action)
  /-- The next operator begins. -/
  | restart (next : Incarnation) : Step c (.restart next) (c.restart next)
  /-- A publication begins with what it finds in the ledger. -/
  | publish (i size : Nat) {world : World} :
    Publication.Step c.world (.begin i (c.ledgerOf size).snapshot) world →
    Step c (.publish i size) (c.inWorld world [])
  /-- What another client writes may have references that were not there. -/
  | write {version : String} {objects : List RelatedObject} {world : World} :
    Publication.Step c.world (.write version objects) world →
    Step c (.write version objects) (c.inWorld world (missing c.listed objects))
  /-- Another client removes the record. -/
  | remove {world : World} : Publication.Step c.world .remove world →
    Step c .remove (c.inWorld world [])
  /-- The server serves a request. -/
  | serve {i : Nat} {outcome : Outcome} {world : World} :
    Publication.Step c.world (.serve i outcome) world →
    Step c (.serve i outcome) (c.inWorld world [])

/-- Any number of happenings since a first operator began. -/
abbrev Run (store : Store (List RelatedObject)) (n : Incarnation) :
    List Happening → Cluster → Prop :=
  Api.Run Step (Cluster.start store n)

/-- Calls of the operator may go on as they like. -/
theorem Run.advance {store : Store (List RelatedObject)} {n : Incarnation}
    {happenings : List Happening} {c : Cluster} (run : Run store n happenings c)
    (schedule : List Starter.Action) :
    Run store n (happenings ++ schedule.map .call) (schedule.foldl Cluster.advance c) := by
  -- By induction on the actions, each of which is one more happening of the run.
  induction schedule generalizing happenings c with
  | nil => simpa using run
  | cons action rest ih => simpa using ih (run.snoc (.call action))

/-- What is true of the operators, the publications and the record, whatever has happened. -/
structure Accounted (c : Cluster) : Prop where
  /-- The publications are at their stages. -/
  staged : Staged c.world
  /-- The calls of the operator are in order. -/
  sound : Sound c.incarnation.visits
    (c.incarnation.starter.withCatalog c.incarnation.catalog) c.crowd
  /-- A publication has begun with references to different bundles that had been started. -/
  offers : ∀ i call, c.world.calls i = some call →
    call.ours.Nodup ∧ ∀ o ∈ call.ours, o ∈ c.decided
  /-- The record has what others have put there, and references to bundles that had been started. -/
  sources : ∀ o ∈ c.listed, o ∈ c.foreign ∨ o ∈ c.decided

namespace Accounted

variable {c c' : Cluster}

/-- A first operator has not started or published anything. -/
theorem start (store : Store (List RelatedObject)) (n : Incarnation) :
    Accounted (Cluster.start store n) where
  staged := .start store
  sound := ⟨.start .., .start ..⟩
  offers i call pending := by cases pending
  sources o member := .inl member

/-- The ledger has references to different bundles that have been started. -/
theorem ledgerOf (kept : Accounted c) (size : Nat) :
    (c.ledgerOf size).entries.Nodup ∧ ∀ o ∈ (c.ledgerOf size).entries, o ∈ c.decided := by
  -- What is shown is the front of a ledger that lists what has been started, once each.
  have recorded := kept.sound.recorded c.incarnation.accepted
  constructor
  · exact recorded.ledger_nodup.sublist (List.take_sublist ..)
  · intro o member
    have listed := List.mem_of_mem_take member
    rw [recorded.ledger] at listed
    rw [Cluster.decided, List.map_append]
    exact List.mem_append_right _ listed

/-- A call of the operator starts only what is accounted for. -/
theorem advance (kept : Accounted c) (action : Starter.Action) : Accounted (c.advance action) := by
  -- Starts are only added, so that what has been decided before stays so.
  have more : ∀ o ∈ c.decided, o ∈ (c.advance action).decided := by
    intro o member
    have later := (Crowd.started_step c.incarnation.visits c.crowd action).map
      (·.descriptor.relatedObject)
    simp only [decided, List.map_append, List.mem_append] at member ⊢
    exact member.imp_right fun begun => later.subset begun
  exact {
    staged := kept.staged
    sound := kept.sound.step action
    offers := fun i call pending =>
      (kept.offers i call pending).imp_right fun all o member => more o (all o member)
    sources := fun o member => (kept.sources o member).imp_right (more o) }

/-- What the operators before have started stays accounted for. -/
theorem restart (kept : Accounted c) (next : Incarnation) : Accounted (c.restart next) := by
  -- The starts of the operator that ends are put with those of the earlier ones, so none is lost.
  have same : (c.restart next).decided = c.decided := by
    simp [decided, Cluster.restart, Incarnation.crowd, Crowd.start, started]
  exact {
    staged := kept.staged
    sound := ⟨.start .., .start ..⟩
    offers := fun i call pending => same ▸ kept.offers i call pending
    sources := fun o member => same ▸ kept.sources o member }

/-- A publication begins with references that are accounted for. -/
theorem publish (kept : Accounted c) {i size : Nat} {world : World}
    (step : Publication.Step c.world (.begin i (c.ledgerOf size).snapshot) world) :
    Accounted (c.inWorld world []) where
  staged := kept.staged.step step
  sound := kept.sound
  offers j call pending := by
    -- Who publishes what is all that changes.
    cases step with
    | begin =>
      -- Only the publication that begins has new references, and they are those of the ledger.
      obtain ⟨rfl, rfl⟩ | ⟨-, waiting⟩ := Traffic.of_suspend pending
      · exact kept.ledgerOf size
      · exact kept.offers j call waiting
  sources o member := by
    cases step with
    | begin => simpa using kept.sources o member

/-- What others write is accounted for as theirs. -/
theorem write (kept : Accounted c) {version : String} {objects : List RelatedObject}
    {world : World} (step : Publication.Step c.world (.write version objects) world) :
    Accounted (c.inWorld world (missing c.listed objects)) where
  staged := kept.staged.step step
  sound := kept.sound
  offers := by
    -- No publication changes by what others write.
    cases step with
    | write => exact kept.offers
  sources o member := by
    cases step with
    | write =>
      -- What others write was there before, or it is new and theirs.
      have written : o ∈ objects := member
      by_cases old : o ∈ c.listed
      · exact (kept.sources o old).imp_left (List.mem_append_left _)
      · exact .inl (List.mem_append_right _ (List.mem_filter.mpr ⟨written, by simpa using old⟩))

/-- A removed record leaves nothing to be accounted for. -/
theorem remove (kept : Accounted c) {world : World}
    (step : Publication.Step c.world .remove world) : Accounted (c.inWorld world []) where
  staged := kept.staged.step step
  sound := kept.sound
  offers := by
    -- No publication changes by a removal.
    cases step with
    | remove => exact kept.offers
  sources o member := by
    cases step with
    | remove => cases member

/-- What publications write is accounted for as started. -/
theorem serve (kept : Accounted c) {i : Nat} {outcome : Outcome} {world : World}
    (step : Publication.Step c.world (.serve i outcome) world) :
    Accounted (c.inWorld world []) where
  staged := kept.staged.step step
  sound := kept.sound
  offers j call pending := by
    -- The publication that is served keeps its references, and the others are untouched.
    obtain ⟨before, waiting, same⟩ := step.ours pending
    exact same ▸ kept.offers j before waiting
  sources o member := by
    obtain ⟨ours, rest, pending, served⟩ := kept.staged.serve step
    rw [inWorld_foreign, List.append_nil, inWorld_decided]
    by_cases changed : outcome = .accepted
    · -- What has been appended is among the references that the publication has begun with.
      obtain ⟨r, r', found, after, appended⟩ := served.accepted changed
      rw [listed_eq after, appended, List.mem_append] at member
      rcases member with old | new
      · exact kept.sources o (listed_eq found ▸ old)
      · exact .inr ((kept.offers i _ pending).2 o (List.mem_filter.mp new).1)
    · have before : o ∈ c.listed := by simpa [listed, served.unchanged changed] using member
      exact kept.sources o before

/-- Whatever happens is accounted for. -/
theorem step (kept : Accounted c) {happening : Happening} (step : c.Step happening c') :
    Accounted c' := by
  -- One case for each happening, each by its lemma above.
  cases step with
  | call action => exact kept.advance action
  | restart next => exact kept.restart next
  | publish i size step => exact kept.publish step
  | write step => exact kept.write step
  | remove step => exact kept.remove step
  | serve step => exact kept.serve step

end Accounted

/-- Whatever has happened is accounted for. -/
theorem Run.accounted {store : Store (List RelatedObject)} {n : Incarnation}
    {happenings : List Happening} {c : Cluster} (run : Run store n happenings c) : Accounted c :=
  run.keeps (fun kept step => kept.step step) (.start store n)

end Cluster

/--
However often the operator is restarted, the record has what others have put there and references to
the objects of bundles that had been started.

A publication repeats no reference, and afterwards the record has all that it found in the ledger. As
an entry of the record is read by its group, resource, namespace and name, entries are the same when
these are.
-/
theorem record_accounted {store : Store (List RelatedObject)} {n : Incarnation}
    {happenings : List Cluster.Happening} {c : Cluster}
    (run : Cluster.Run store n happenings c) :
    (∀ o ∈ c.listed, o ∈ c.foreign ∨ o ∈ c.decided) ∧
    ∀ i outcome c', c.Step (.serve i outcome) c' → ∃ call, c.world.calls i = some call ∧
      -- Bundles whose references are new had been started before.
      (∀ o ∈ c'.listed, o ∈ c.listed ∨ o ∈ c.decided) ∧
      (∀ o, c.listed.count o ≤ 1 → c'.listed.count o ≤ 1) ∧
      (outcome = .accepted → ∀ o ∈ call.ours, o ∈ c'.listed) := by
  -- The run keeps the invariant, and the next answer is one more step from where it holds.
  have kept := run.accounted
  refine ⟨kept.sources, fun i outcome c' step => ?_⟩
  cases step with
  | @serve _ _ world step =>
    obtain ⟨ours, rest, pending, served⟩ := kept.staged.serve step
    obtain ⟨distinct, started⟩ := kept.offers i _ pending
    refine ⟨_, pending, ?_⟩
    by_cases changed : outcome = .accepted
    · obtain ⟨r, r', found, after, appended⟩ := served.accepted changed
      have grown : (c.inWorld world []).listed = c.listed ++ missing c.listed ours := by
        rw [Cluster.listed_eq after, appended, Cluster.listed_eq found]
      rw [grown]
      refine ⟨fun o member => ?_, fun o once => count_append_missing distinct once,
        fun _ o member => mem_append_missing member⟩
      exact (List.mem_append.mp member).imp_right fun new => started o (List.mem_filter.mp new).1
    · have same : (c.inWorld world []).listed = c.listed := by
        simp [Cluster.listed, served.unchanged changed]
      rw [same]
      exact ⟨fun o => .inl, fun o once => once, fun accepted => absurd accepted changed⟩

/-- An operator of the builtin drivers on one platform. -/
def builtinOn (platform : Platform) : Incarnation where
  -- All platforms have bundles, of which one is eligible.
  drivers := Descriptor.builtin
  starter := Starter.builtin
  accepted := Starter.new_builtin
  catalog := FeatureCatalog.builtin
  visits _ := Visit.managedOn platform

/-- After a restart the operator publishes what it has started again, once. -/
theorem record_accounted_restarted :
    let n := builtinOn .aws
    let object := RelatedObject.clusterScoped "operator.openshift.io" "clustercsidrivers"
      "ebs.csi.aws.com"
    let store : Store (List RelatedObject) := ⟨some firstRecord, ["1"], by simp [firstRecord]⟩
    ∃ happenings c c', Cluster.Run store n happenings c ∧ c.Step (.serve 0 .accepted) c' ∧
      c.earlier.length = 1 ∧ c'.listed.count object = 1 := by
  -- The two operators are one schedule, in which a restart stands in the middle.
  intro n object store
  -- Each of two operators makes one sync.
  let schedule := List.replicate 4 (Starter.Action.advance 0)
  let c := schedule.foldl Cluster.advance
    ((schedule.foldl Cluster.advance (Cluster.start store n)).restart n)
  have first : Cluster.Run store n (schedule.map .call) _ :=
    Cluster.Run.advance (.nil : Cluster.Run store n [] _) schedule
  have second := Cluster.Run.advance (first.snoc (.restart n)) schedule
  have earlier : c.earlier.length = 1 := by decide +kernel
  have ledger : (c.ledgerOf 1).snapshot = (true, [object]) := by decide +kernel
  -- The second one publishes, while the record is as it was.
  let begun := c.inWorld (c.world.suspend 0 ⟨[object], publishThrough (true, [object])⟩) []
  have begins : c.Step (.publish 0 1) begun := by
    refine .publish 0 1 ?_
    rw [ledger]
    exact .begin 0 (true, [object])
  have present : begun.world.store.object = some firstRecord := rfl
  obtain ⟨shows, reads⟩ := shownReply_shows firstRecord (by simp)
  let asks : Publishing := ⟨[object],
    .ask (writeRequest (some "1") (firstRecord.content ++ [object])) fun reply =>
      .done (settled reply)⟩
  let read := begun.inWorld (begun.world.suspend 0 asks) []
  have reading : begun.Step (.serve 0 .shown) read :=
    .serve (@Step.shown _ 0 [object] _ _ _ rfl present shows reads rfl)
  have run := (second.snoc begins).snoc reading
  have fresh : "2" ∉ begun.world.store.used := by decide
  have pending : read.world.calls 0 = some asks := rfl
  have accepted := Cluster.Step.serve (.serve pending (.current present fresh _ (.lost "")))
  refine ⟨_, read, _, run, accepted, earlier, ?_⟩
  obtain ⟨call, found, -, once, all⟩ := (record_accounted run).2 0 .accepted _ accepted
  obtain rfl : asks = call := by simpa [pending] using found
  have listed := all rfl object (by simp [asks])
  exact Nat.le_antisymm (once object (by decide)) (List.count_pos_iff.mpr listed)

end Publication

end CsiOperator
