import CsiOperator.Proofs.Starter.EarlyEnd
import CsiOperator.Proofs.Starter.Recorded
import CsiOperator.Proofs.Starter.Schedule

/-! Every start is announced once, by the call that has made it, before that call returns. -/

namespace CsiOperator

/-- What happens to a call while it announces a start. -/
def Start.announced (start : Start) : List Starter.Event :=
  [.asked start.announcement, .answered start.announcement]

namespace Starter

namespace Event

/-- What has happened to one call, in order. -/
def ofCall (i : Nat) (log : List (Nat × Event)) : List Event :=
  log.filterMap fun entry => if entry.1 = i then some entry.2 else none

/-- Nothing is started or announced. -/
def quiet : Event → Bool
  -- Getting hold of the operator and reading are quiet, and so is the return.
  | .released _ | .asked (.announce _ _) => false
  | _ => true

/-- What is announced. -/
def tells : Event → List (Reference × Announcement)
  -- An announcement is told when it is asked for, whatever comes of it.
  | .asked (.announce about what) => [(about, what)]
  | _ => []

/-- What is to be announced of what is started. -/
def owes : Event → List (Reference × Announcement)
  -- One announcement is owed for each start, in the order of the starts.
  | .released starts =>
    starts.map fun start => (Reference.storage, .driverStarted start.descriptor.driver)
  | _ => []

/-- What is quiet neither announces nor starts anything. -/
theorem tells_of_quiet {event : Event} (quiet : event.quiet = true) :
    event.tells = [] ∧ event.owes = [] := by
  -- Giving the operator back and announcements are all that is not quiet.
  cases event with
  | released => cases quiet
  | asked question => cases question <;> first | exact ⟨rfl, rfl⟩ | cases quiet
  | _ => exact ⟨rfl, rfl⟩

/-- What has been announced, in order. -/
def announced (log : List (Nat × Event)) : List (Reference × Announcement) :=
  log.flatMap fun entry => entry.2.tells

/-- What happens to one call comes after what has happened to it. -/
@[simp] theorem ofCall_append (i : Nat) (earlier later : List (Nat × Event)) :
    ofCall i (earlier ++ later) = ofCall i earlier ++ ofCall i later :=
  List.filterMap_append

/-- What happens to a call happens to it. -/
@[simp] theorem ofCall_same (i : Nat) (event : Event) : ofCall i [(i, event)] = [event] := by
  simp [ofCall]

/-- What happens to a call does not happen to another one. -/
theorem ofCall_other {i j : Nat} (other : j ≠ i) (event : Event) : ofCall j [(i, event)] = [] := by
  simp [ofCall, other.symm]

/-- What has happened to a call is what the log says of it. -/
theorem mem_ofCall {i : Nat} {event : Event} {log : List (Nat × Event)} :
    event ∈ ofCall i log ↔ (i, event) ∈ log := by
  -- The log keeps entries of all calls, of which those with this number are taken out.
  simp only [ofCall, List.mem_filterMap, Option.ite_none_right_eq_some, Option.some.injEq]
  constructor
  · rintro ⟨entry, member, rfl, rfl⟩
    exact member
  · exact fun member => ⟨(i, event), member, rfl, rfl⟩

/-- Entries that belong to the calls in the same way are the same entries. -/
theorem perm_of_calls {α : Type} [DecidableEq α] {xs ys : List (Nat × α)}
    (same : ∀ i, xs.filter (·.1 = i) = ys.filter (·.1 = i)) : xs.Perm ys := by
  -- An entry is as often in a list as among the entries of its call.
  rw [List.perm_iff_count]
  intro entry
  have own (zs : List (Nat × α)) : (zs.filter (·.1 = entry.1)).count entry = zs.count entry :=
    List.count_filter (by simp)
  rw [← own xs, ← own ys, same]

/-- The entries of a call are those of what has happened to it. -/
theorem filter_flatMap {α : Type} (f : Event → List α) (i : Nat) (log : List (Nat × Event)) :
    (log.flatMap fun entry => (f entry.2).map (entry.1, ·)).filter (·.1 = i) =
      ((ofCall i log).flatMap f).map (i, ·) := by
  -- Each event belongs to the call or not, and so does all that comes of it.
  induction log with
  | nil => rfl
  | cons entry rest ih =>
    rw [List.flatMap_cons, List.filter_append, ih, ← List.singleton_append, ofCall_append,
      List.flatMap_append, List.map_append]
    refine congrArg (· ++ _) ?_
    rcases entry with ⟨j, event⟩
    by_cases same : i = j
    · subst same
      simp
    · simp [ofCall_other same, Ne.symm same]

/-- When every call announces what it has started, this is what is announced altogether. -/
theorem announced_perm {log : List (Nat × Event)}
    (same : ∀ i, (ofCall i log).flatMap tells = (ofCall i log).flatMap owes) :
    (announced log).Perm ((started log).map fun start =>
      (Reference.storage, .driverStarted start.descriptor.driver)) := by
  -- The calls tell the entries apart until it has been seen that they match.
  have matched := perm_of_calls fun i =>
    (filter_flatMap tells i log).trans ((congrArg _ (same i)).trans (filter_flatMap owes i log).symm)
  have owed : (started log).map (fun start =>
      (Reference.storage, .driverStarted start.descriptor.driver)) =
        log.flatMap fun entry => entry.2.owes := by
    rw [started, List.map_flatMap]
    refine congrArg (List.flatMap · log) (funext fun entry => ?_)
    rcases entry with ⟨j, event⟩
    cases event <;> rfl
  have plain := matched.map Prod.snd
  rw [List.map_flatMap, List.map_flatMap] at plain
  simp only [List.map_map, Function.comp_def, List.map_id'] at plain
  rw [owed]
  exact plain

end Event

open Event

/-- What happens to a call that has only announcements left when it goes on. -/
def nextTelling (reply : Reply) : List Start → Event
  -- Once nothing is left to announce, the call returns.
  | [] => .returned reply
  | start :: _ => .asked start.announcement

/-- How far a call has come, and what has happened to it until then. -/
inductive Told (v : Visit) (s : Starter) : Option (Routine Reply) → List Event → Prop
  /-- It has not got hold of the operator yet. -/
  | waiting : Told v s (some v.demand.routine) []
  /-- It has got hold of the operator, and has started nothing yet. -/
  | reading {rest : Routine Reply} {events : List Event} : Announces rest →
    (∀ event ∈ events, event.quiet = true) → Told v s (some rest) events
  /-- It has given the operator back, and has announced some of its starts since. -/
  | telling {rest : Routine Reply} {before : List Event} {told left : List Start} {reply : Reply}
    (earlier : List Visit) : Announcing reply left rest →
    (∀ event ∈ before, event.quiet = true) →
    (v.turn (s.after earlier)).reply = reply → (v.turn (s.after earlier)).starts = told ++ left →
    Told v s (some rest) (before ++ .released (told ++ left) ::
      (told.flatMap Start.announced ++ [nextTelling reply left]))
  /-- It has been dropped. -/
  | dropped {events : List Event} : Told v s none events

/-- Announcements go on one by one. -/
theorem Announcing.proceed {reply : Reply} {left : List Start} {rest : Routine Reply}
    (announcing : Announcing reply left rest) (i : Nat) (w : Crowd) :
    w.proceed i rest = (w.suspend i rest).note i (nextTelling reply left) := by
  cases announcing <;> rfl

/-- What a call does is nothing to the others. -/
theorem Crowd.proceed_other {i j : Nat} (other : j ≠ i) (rest : Routine Reply) (w : Crowd) :
    (w.proceed i rest).pending j = w.pending j ∧
      ofCall j (w.proceed i rest).log = ofCall j w.log := by
  -- Giving the operator back is the only thing after which it goes on at once.
  induction rest generalizing w with
  | done reply => simp [Crowd.proceed, Crowd.suspend, Crowd.note, ofCall_other other, other]
  | ask question next ih =>
    cases question with
    | release starter starts =>
      obtain ⟨pending, events⟩ := ih () ({ w with starter, holder := none }.note i (.released starts))
      refine ⟨pending, events.trans ?_⟩
      simp [Crowd.note, ofCall_other other]
    | _ => simp [Crowd.proceed, Crowd.suspend, Crowd.note, ofCall_other other, other]

variable {visits : Nat → Visit} {s : Starter} {w : Crowd} {i : Nat}

/-- A call that has got hold of the operator goes on to the next reader, or to its announcements. -/
theorem Told.proceed {rest : Routine Reply} (announces : Announces rest)
    (quiet : ∀ event ∈ ofCall i w.log, event.quiet = true) (earlier : List Visit)
    (starter : w.starter = s.after earlier)
    (turn : (visits i).toReadings.turn rest w.starter = (visits i).turn w.starter) :
    Told (visits i) s ((w.proceed i rest).pending i) (ofCall i (w.proceed i rest).log) := by
  -- What is left of the call reads, announces or returns, and each is one entry of the log.
  cases announces with
  | @read question next reads later =>
    -- The next reader is asked, which is no announcement.
    have asks : w.proceed i (.ask question next) =
        (w.suspend i (.ask question next)).note i (.asked question) := by
      cases question <;> simp only [Call.reads, Bool.false_eq_true] at reads <;> rfl
    have silent : (Event.asked question).quiet = true := by
      cases question <;> simp only [Call.reads, Bool.false_eq_true] at reads <;> rfl
    rw [asks]
    simp only [Crowd.note, Crowd.suspend, Function.update_self, ofCall_append, ofCall_same]
    refine .reading (.read reads later) fun event member => ?_
    rcases List.mem_append.mp member with before | last
    · exact quiet event before
    · rw [List.mem_singleton.mp last, silent]
  | @release given starts next reply announcing =>
    -- What is given back is what the whole call comes to.
    rw [Readings.turn_release _ announcing.closing] at turn
    rw [starter] at turn
    show Told (visits i) s (Crowd.pending (Crowd.proceed i (next ()) _) i)
      (ofCall i (Crowd.log (Crowd.proceed i (next ()) _)))
    rw [announcing.proceed]
    simp only [Crowd.note, Crowd.suspend, Function.update_self, ofCall_append, ofCall_same]
    have told : Told (visits i) s (some (next ())) (ofCall i w.log ++ .released ([] ++ starts) ::
        (List.flatMap Start.announced [] ++ [nextTelling reply starts])) :=
      .telling earlier announcing quiet (by rw [← turn]) (by rw [← turn]; rfl)
    simpa using told

/-- A call that asks a reader has got hold of the operator, and what is left comes to the whole call. -/
theorem Serial.turn_of_reads (kept : Serial visits s w) {question : Call}
    {next : question.Answer → Routine Reply} (pending : w.pending i = some (.ask question next))
    (reads : question.reads = true) :
    (visits i).toReadings.turn (.ask question next) w.starter = (visits i).turn w.starter := by
  -- A call that waits for the operator asks no reader, so it holds the operator.
  cases kept.phases i with
  | holding rest left _ _ same =>
    obtain rfl : _ = rest := Option.some.inj (pending.symm.trans left)
    exact same
  | waiting left =>
    -- The first question of a call is not one to a reader.
    obtain ⟨first, routine, -⟩ := (visits i).demand.orderly
    rw [pending, routine, Option.some.injEq] at left
    cases left
    cases reads
  | closing rest reply left _ closing =>
    rw [pending, Option.some.injEq] at left
    rw [← left] at closing
    cases closing
    cases reads
  | dropped left => simp [pending] at left

/-- A call that gets an answer from outside goes on with it. -/
theorem Crowd.advance_answered {question : Call} {next : question.Answer → Routine Reply}
    (pending : w.pending i = some (.ask question next)) {answer : question.Answer}
    (answered : (visits i).answer? question = some answer) :
    w.advance visits i = (w.note i (.answered question)).proceed i (next answer) := by
  -- Nobody outside decides who gets hold of the operator, or answers who gives it back.
  cases question <;> simp_all [Crowd.advance, Readings.answer?]

/-- A call that gets what it waits for goes on as far as it tells. -/
theorem Told.advance (kept : Sound visits s w)
    (told : Told (visits i) s (w.pending i) (ofCall i w.log)) :
    Told (visits i) s ((w.advance visits i).pending i) (ofCall i (w.advance visits i).log) := by
  -- What the call is doing decides what it waits for and what it tells next.
  have unmoved := told
  generalize pending : w.pending i = left at told
  generalize happened : ofCall i w.log = events at told
  cases told with
  | waiting =>
    obtain ⟨next, routine, announces⟩ := (visits i).demand.announces
    rw [routine] at pending
    have advances : w.advance visits i = if w.holder = none then
        ({ w with holder := some i }.note i .acquired).proceed i (next w.starter) else w := by
      simp only [Crowd.advance, pending]
    rw [advances]
    split
    · refine Told.proceed (announces w.starter) ?_ _ kept.serial.starter ?_
      · simp [Crowd.note, happened, Event.quiet]
      · rw [Visit.turn, routine, Readings.turn_acquire]
        rfl
    · exact unmoved
  | @reading rest _ announces quiet =>
    cases announces with
    | @read question next reads later =>
      -- A reader answers, whatever it is asked.
      obtain ⟨answer, answered⟩ : ∃ answer, (visits i).answer? question = some answer := by
        cases question <;> simp only [Call.reads, Bool.false_eq_true] at reads <;> exact ⟨_, rfl⟩
      have same := kept.serial.turn_of_reads pending reads
      rw [Readings.turn_read _ reads answered] at same
      rw [Crowd.advance_answered pending answered]
      refine Told.proceed (later answer) (fun event member => ?_) _ kept.serial.starter same
      simp only [Crowd.note, ofCall_append, ofCall_same, happened] at member
      rcases List.mem_append.mp member with before | last
      · exact quiet event before
      · rw [List.mem_singleton.mp last]
        rfl
    | release announcing =>
      -- A call does not wait for giving the operator back.
      have stays : w.advance visits i = w := by simp [Crowd.advance, pending, Readings.answer?]
      rw [stays]
      exact unmoved
  | @telling rest before toldOf leftOf reply earlier announcing quiet replied starts =>
    cases announcing with
    | done =>
      have stays : w.advance visits i = w := by simp [Crowd.advance, pending]
      rw [stays]
      exact unmoved
    | @announce start later next announcing =>
      -- The publisher has got the announcement, and the next one comes.
      rw [Crowd.advance_answered pending rfl, announcing.proceed]
      simp only [Crowd.note, Crowd.suspend, Function.update_self, ofCall_append, ofCall_same,
        happened]
      have told : Told (visits i) s (some (next ()))
          (before ++ .released ((toldOf ++ [start]) ++ later) ::
            ((toldOf ++ [start]).flatMap Start.announced ++ [nextTelling reply later])) :=
        .telling earlier announcing quiet replied (by rw [starts, List.append_assoc]; rfl)
      simpa [Start.announced, nextTelling, Start.announcement] using told
  | dropped =>
    have stays : w.advance visits i = w := by simp [Crowd.advance, pending]
    rw [stays]
    exact unmoved

/-- What becomes of one call is nothing to the others. -/
theorem Crowd.advance_other {j : Nat} (other : j ≠ i) (visits : Nat → Visit) (w : Crowd) :
    (w.advance visits i).pending j = w.pending j ∧
      ofCall j (w.advance visits i).log = ofCall j w.log := by
  -- Whatever the call waits for, it either stays or goes on by itself.
  unfold Crowd.advance
  split
  · split
    · obtain ⟨pending, events⟩ := Crowd.proceed_other other _ _
      refine ⟨pending, events.trans ?_⟩
      simp [Crowd.note, ofCall_other other]
    · exact ⟨rfl, rfl⟩
  · split
    · obtain ⟨pending, events⟩ := Crowd.proceed_other other _ _
      refine ⟨pending, events.trans ?_⟩
      simp [Crowd.note, ofCall_other other]
    · exact ⟨rfl, rfl⟩
  · exact ⟨rfl, rfl⟩

/-- A call that is dropped tells nothing any more. -/
theorem Told.drop (told : Told (visits i) s (w.pending i) (ofCall i w.log)) :
    Told (visits i) s ((w.drop i).pending i) (ofCall i (w.drop i).log) := by
  -- A call that has ended already cannot be dropped, and then nothing changes.
  unfold Crowd.drop
  split
  · simp only [Crowd.note, Function.update_self]
    exact .dropped
  · exact told

/-- That a call is dropped is nothing to the others. -/
theorem Crowd.drop_other {j : Nat} (other : j ≠ i) (w : Crowd) :
    (w.drop i).pending j = w.pending j ∧ ofCall j (w.drop i).log = ofCall j w.log := by
  -- A drop changes one place of the calls and adds one entry, both of another call.
  unfold Crowd.drop
  split
  · simp [Crowd.note, ofCall_other other, other]
  · exact ⟨rfl, rfl⟩

/-- Calls that overlap are in order, and tell what they have started. -/
structure Telling (visits : Nat → Visit) (s : Starter) (w : Crowd) : Prop where
  /-- They are in order. -/
  sound : Sound visits s w
  /-- They tell what they have started. -/
  told : ∀ i, Told (visits i) s (w.pending i) (ofCall i w.log)

namespace Telling

/-- Calls that have not begun have nothing to tell. -/
theorem start (visits : Nat → Visit) (s : Starter) : Telling visits s (Crowd.start visits s) :=
  ⟨⟨.start visits s, .start visits s⟩, fun _ => .waiting⟩

/-- One action leaves calls telling. -/
theorem step (kept : Telling visits s w) (action : Action) :
    Telling visits s (w.step visits action) := by
  -- The crowd stays in order by its own step lemma, so what each call tells is left.
  refine ⟨kept.sound.step action, fun j => ?_⟩
  -- Only the call that acts gets to tell more.
  cases action with
  | advance i =>
    by_cases same : j = i
    · subst same
      exact (kept.told j).advance kept.sound
    · obtain ⟨pending, events⟩ := Crowd.advance_other same visits w
      show Told _ _ ((w.advance visits i).pending j) (ofCall j (w.advance visits i).log)
      rw [pending, events]
      exact kept.told j
  | drop i =>
    by_cases same : j = i
    · subst same
      exact (kept.told j).drop
    · obtain ⟨pending, events⟩ := Crowd.drop_other same w
      show Told _ _ ((w.drop i).pending j) (ofCall j (w.drop i).log)
      rw [pending, events]
      exact kept.told j

/-- Any schedule leaves calls telling. -/
theorem run (kept : Telling visits s w) (schedule : List Action) :
    Telling visits s (w.run visits schedule) := by
  -- By induction on the schedule, along which each action keeps it.
  induction schedule generalizing w with
  | nil => exact kept
  | cons action rest ih => exact ih (kept.step action)

/-- A call that has returned has told all that it has started, and nothing else. -/
theorem returned (kept : Telling visits s w) {reply : Reply}
    (returned : w.pending i = some (.done reply)) : ∃ before starts earlier,
      ofCall i w.log = before ++ .released starts ::
        (starts.flatMap Start.announced ++ [.returned reply]) ∧
      (∀ event ∈ before, event.quiet = true) ∧
      ((visits i).turn (s.after earlier)).reply = reply ∧
      ((visits i).turn (s.after earlier)).starts = starts := by
  -- Only a call with no announcement left can have returned.
  have told := kept.told i
  generalize pending : w.pending i = left at told
  generalize happened : ofCall i w.log = events at told
  rw [pending] at returned
  cases told with
  | waiting =>
    obtain ⟨next, routine, -⟩ := (visits i).demand.orderly
    rw [routine] at returned
    cases returned
  | reading announces _ =>
    cases returned
    cases announces
  | @telling rest before toldOf leftOf got earlier announcing quiet replied starts =>
    cases returned
    cases announcing
    rw [List.append_nil] at starts
    exact ⟨before, toldOf, earlier, by rw [List.append_nil]; rfl, quiet, replied, starts⟩
  | dropped => cases returned

/-- A call that has returned has announced what it has started. -/
theorem tells_eq_owes (kept : Telling visits s w) {reply : Reply}
    (returned : w.pending i = some (.done reply)) :
    (ofCall i w.log).flatMap tells = (ofCall i w.log).flatMap owes := by
  -- What has been told is quiet up to the release, from where announcements and starts agree.
  obtain ⟨before, starts, -, events, quiet, -, -⟩ := kept.returned returned
  -- Nothing is told or owed before, and then each start is told once.
  have silent : before.flatMap tells = [] ∧ before.flatMap owes = [] :=
    ⟨List.flatMap_eq_nil_iff.mpr fun event member => (tells_of_quiet (quiet event member)).1,
      List.flatMap_eq_nil_iff.mpr fun event member => (tells_of_quiet (quiet event member)).2⟩
  have all : (starts.flatMap Start.announced).flatMap tells = Event.owes (.released starts) := by
    rw [List.flatMap_assoc]
    exact (List.map_eq_flatMap).symm
  have none : (starts.flatMap Start.announced).flatMap owes = [] := by
    rw [List.flatMap_assoc]
    exact List.flatMap_eq_nil_iff.mpr fun _ _ => rfl
  rw [events]
  simp [silent, all, none, tells, owes]

end Telling

/-- At its start, the reference of a bundle is in the ledger already. -/
theorem Recorded.mem_ledger {ds : List Descriptor} {starts : List Start} {s : Starter}
    (kept : Recorded ds starts s) {start : Start} (member : start ∈ starts) :
    start.descriptor.relatedObject ∈ start.ledger.entries := by
  -- The last reference that the ledger has then is its own.
  obtain ⟨k, place⟩ := List.mem_iff_getElem?.mp member
  rw [kept.moments k start place, List.take_add_one, place]
  simp

/-- A call starts bundles in the order of the operator. -/
theorem Visit.starts_sublist (v : Visit) (s : Starter) :
    ((v.turn s).starts.map (·.descriptor)).Sublist (s.bundles.map (·.descriptor)) := by
  -- The starts are those of the bundles that are due.
  rw [v.turn_eq, startDue_starts]
  exact List.filter_sublist.map _

/-- A call that fails, or does not find the operator managed, starts nothing. -/
theorem Visit.starts_eq_nil (v : Visit) (s : Starter)
    (ends : (∃ failure, (v.turn s).reply = .error failure) ∨ v.state ≠ .ok (some .managed)) :
    (v.turn s).starts = [] := by
  -- It is enough that the call does not complete, for then nothing is started.
  apply (Visit.turn_of_not_completes ?_ s).2
  -- Whoever gets to see the cluster finds the operator managed, and does not fail.
  cases learnt : v.snapshot with
  | error failure => simp [completes, learnt]
  | ok found =>
    rcases found with _ | ⟨infrastructure, gate⟩
    · simp [completes, learnt]
    · rcases ends with ⟨failure, fails⟩ | unmanaged
      · rw [v.turn_eq] at fails
        simp only [reply, learnt, Except.map] at fails
        split at fails <;> cases fails
      · exact absurd ((v.snapshot_eq_some_iff infrastructure gate).mp learnt).1 unmanaged

/--
Every bundle that is ever started is announced once, by the sync that has started it.

When a sync returns, it has announced what it has started, in the order of the drivers, after the starts
and their references in the ledger, and nothing else. A sync that fails or does not find the operator
managed has started nothing. However the syncs overlap, once all of them have returned there is one
announcement about the storage of the cluster for each bundle that runs.
-/
theorem starts_announced_once {ds : List Descriptor} {s : Starter} (accepted : new ds = .ok s)
    (catalog : FeatureCatalog) (visits : Nat → Visit) (schedule : List Action) :
    let w := (Crowd.start visits (s.withCatalog catalog)).run visits schedule
    let tellsOf (d : Descriptor) : Reference × Announcement :=
      (Reference.storage, .driverStarted d.driver)
    -- What happens to a sync that returns ends with the announcements of its starts.
    (∀ i reply, w.pending i = some (.done reply) → ∃ before starts,
      ofCall i w.log = before ++ .released starts ::
        (starts.flatMap Start.announced ++ [.returned reply]) ∧
      (∀ event ∈ before, event.quiet = true) ∧
      (starts.map (·.descriptor)).Sublist ds ∧
      (∀ start ∈ starts, start.descriptor.relatedObject ∈ start.ledger.entries) ∧
      ((∃ failure, reply = .error failure) ∨ (visits i).state ≠ .ok (some .managed) →
        starts = [])) ∧
    -- Once all syncs have returned that have begun, the announcements are those of the starts.
    ((∀ i event, (i, event) ∈ w.log → ∃ reply, w.pending i = some (.done reply)) →
      (announced w.log).Perm ((started w.log).map fun start => tellsOf start.descriptor) ∧
      (announced w.log).Nodup ∧
      (∀ b ∈ w.starter.bundles, b.running = true ↔ tellsOf b.descriptor ∈ announced w.log) ∧
      ∀ about what, (about, what) ∈ announced w.log → about.kind = some "Storage" ∧
        about.name = some "cluster" ∧ what.reason = "CSIDriverControllerStarted") := by
  intro w tellsOf
  have kept : Telling visits (s.withCatalog catalog) w := (Telling.start visits _).run schedule
  have recorded (earlier : List Visit) := (Recorded.new accepted catalog).run earlier
  refine ⟨fun i reply returned => ?_, fun complete => ?_⟩
  · obtain ⟨before, starts, earlier, events, quiet, replied, rfl⟩ := kept.returned returned
    refine ⟨before, _, events, quiet, ?_, fun start member => ?_, fun ends => ?_⟩
    · rw [← (recorded earlier).descriptors]
      exact Visit.starts_sublist _ _
    · exact ((recorded earlier).turn (visits i)).mem_ledger (List.mem_append_right _ member)
    · rw [← replied] at ends
      exact Visit.starts_eq_nil _ _ ends
  · have now : Recorded ds (started w.log) w.starter := by
      rw [kept.sound.serial.starter, kept.sound.serial.starts]
      simpa using recorded ((releases w.log).map visits)
    have matched := announced_perm fun i => by
      -- A call either has returned, or nothing has happened to it.
      rcases events : ofCall i w.log with _ | ⟨event, rest⟩
      · rfl
      · obtain ⟨reply, returned⟩ := complete i event (mem_ofCall.mp (by rw [events]; simp))
        rw [← events]
        exact kept.tells_eq_owes returned
    have told_iff (d : Descriptor) (known : d ∈ ds) :
        tellsOf d ∈ announced w.log ↔ d ∈ (started w.log).map (·.descriptor) := by
      rw [matched.mem_iff, List.mem_map, List.mem_map]
      refine exists_congr fun start => and_congr_right fun member => ?_
      -- Drivers of one name are one driver.
      refine ⟨fun same => now.driver_inj (now.known start member) known ?_, fun same => same ▸ rfl⟩
      exact Announcement.driverStarted.inj (Prod.mk.inj same).2
    refine ⟨matched, ?_, fun b member => ?_, fun about what member => ?_⟩
    · -- No driver is started twice, and each has an announcement of its own.
      rw [matched.nodup_iff]
      refine now.once.of_map _ |>.map_on fun first left second right same => ?_
      exact List.inj_on_of_nodup_map now.once left right
        (now.driver_inj (now.known first left) (now.known second right)
          (Announcement.driverStarted.inj (Prod.mk.inj same).2))
    · rw [now.running b member, told_iff _ (now.descriptor_mem member)]
    · obtain ⟨start, -, same⟩ := List.mem_map.mp (matched.mem_iff.mp member)
      cases same
      exact ⟨rfl, rfl, rfl⟩

/-- While the first sync announces what it has started on one platform, the second one does so on another. -/
theorem starts_announced_once_overlapping :
    let visits : Nat → Visit := fun
      | 0 => .managedOn .azure
      | _ => .managedOn .gcp
    let w := (Crowd.start visits (builtin.withCatalog FeatureCatalog.builtin)).run visits
      [.advance 0, .advance 0, .advance 0, .advance 0, .advance 1, .advance 1, .advance 1,
        .advance 1, .advance 0, .advance 1, .advance 0]
    (∀ i event, (i, event) ∈ w.log → ∃ reply, w.pending i = some (.done reply)) ∧
      (announced w.log).map (·.2) = [.driverStarted "disk.csi.azure.com",
        .driverStarted "pd.csi.storage.gke.io", .driverStarted "file.csi.azure.com"] ∧
      (announced w.log).Perm ((started w.log).map fun start =>
        (Reference.storage, .driverStarted start.descriptor.driver)) := by
  -- There are two calls, and each of them has returned by the end of the schedule.
  intro visits w
  have two : ∀ i ∈ w.log.map (·.1), i < 2 := by decide +kernel
  have complete : ∀ i event, (i, event) ∈ w.log → ∃ reply, w.pending i = some (.done reply) := by
    intro i event member
    have := two i (List.mem_map_of_mem member)
    obtain rfl | rfl : i = 0 ∨ i = 1 := by omega
    · exact ⟨_, rfl⟩
    · exact ⟨_, rfl⟩
  exact ⟨complete, by decide +kernel,
    ((starts_announced_once new_builtin FeatureCatalog.builtin visits _).2 complete).1⟩

end Starter

end CsiOperator
