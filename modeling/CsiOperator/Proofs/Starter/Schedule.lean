import CsiOperator.Proofs.Starter.Serial
import CsiOperator.Proofs.Starter.Uninterrupted

/-! Whatever the schedule, overlapping calls come to what they come to one after another. -/

namespace CsiOperator.Starter

open Event
open scoped List

variable {visits : Nat → Visit} {s : Starter} {w : Crowd} {i : Nat}

/-- Calls that overlap are in order. -/
structure Sound (visits : Nat → Visit) (s : Starter) (w : Crowd) : Prop where
  /-- What they come to is serial. -/
  serial : Serial visits s w
  /-- Their readings do not mix. -/
  apart : Apart w

namespace Sound

/-- What happens without the operator changing hands and without a reader leaves calls in order. -/
theorem note (kept : Sound visits s w) {event : Event} (silent : event.silent = true)
    (unread : readings [(i, event)] = []) : Sound visits s (w.note i event) :=
  ⟨kept.serial.note i silent, kept.apart.note unread⟩

/-- The call that has got hold of the operator may read. -/
theorem note_reading (kept : Sound visits s w) (holds : w.holder = some i) {event : Event}
    (silent : event.silent = true) (read : readings [(i, event)] = [i]) :
    Sound visits s (w.note i event) := by
  -- The holder is the last one that got hold of the operator, so its reading comes at the end.
  obtain ⟨-, before, acquired⟩ := kept.serial.latest i holds
  exact ⟨kept.serial.note i silent, kept.apart.note_reading holds (by simp [acquired]) read⟩

/-- A call with only announcements left goes on in order. -/
theorem proceed_closing (kept : Sound visits s w) {rest : Routine Reply} {reply : Reply}
    (pending : w.pending i = some rest) (closing : Closing reply rest) :
    Sound visits s (w.proceed i rest) := by
  -- An announcement is silent, so it changes nothing that order is told by.
  obtain ⟨event, silent, unread, same⟩ := closing.proceed i w
  have unchanged : w.suspend i rest = w := by simp [Crowd.suspend, ← pending]
  rw [same, unchanged]
  exact kept.note silent unread

/-- The call that has got hold of the operator goes on in order. -/
theorem proceed_inside (kept : Sound visits s w) {rest : Routine Reply}
    (pending : w.pending i = some rest) (holds : w.holder = some i) (inside : Inside rest) :
    Sound visits s (w.proceed i rest) := by
  -- What is left inside either asks a reader or gives the operator back.
  rcases inside.proceed i w with ⟨question, reads, same⟩ |
    ⟨starter, starts, next, reply, rfl, closing, same⟩
  · -- It asks the next reader.
    have unchanged : w.suspend i rest = w := by simp [Crowd.suspend, ← pending]
    rw [same, unchanged]
    exact kept.note_reading holds rfl (by simp [readings, reads])
  · -- It gives the operator back, and what is left are announcements.
    rw [same, ← Crowd.proceed_suspend _ i (next ())]
    have apart : Apart (({ w with starter, holder := none }).note i (.released starts)) :=
      (kept.apart.free starter).note (by simp [readings])
    exact proceed_closing ⟨kept.serial.release pending holds closing, apart.suspend i _⟩
      (by simp [Crowd.suspend]) closing

/-- A call that gets hold of the operator goes on in order. -/
theorem proceed_acquire (kept : Sound visits s w) (free : w.holder = none)
    {next : Starter → Routine Reply} (pending : w.pending i = some (.ask .acquire next)) :
    Sound visits s (({ w with holder := some i }.note i .acquired).proceed i (next w.starter)) := by
  -- Only a free operator is given to a call, which then stands inside.
  obtain ⟨first, routine, inside⟩ := (visits i).demand.orderly
  -- Only a call that has not begun waits for the operator.
  cases kept.serial.phases i with
  | waiting left _ never =>
    rw [pending, routine, Option.some.injEq] at left
    obtain rfl : next = first := by simpa using left
    have entered := kept.serial.enter free never routine (inside w.starter)
    have noted : Apart (({ w with holder := some i }).note i .acquired) :=
      (kept.apart.take never).note (by simp [readings])
    -- It goes on as if it had been suspended right after getting hold of the operator.
    rw [← Crowd.proceed_suspend _ i (next w.starter)]
    exact proceed_inside ⟨entered, noted.suspend i _⟩ (by simp [Crowd.suspend]) rfl
      (inside w.starter)
  | holding rest left holds => simp [free] at holds
  | closing rest reply left _ closing =>
    rw [pending, Option.some.injEq] at left
    rw [← left] at closing
    cases closing
  | dropped left => simp [pending] at left

/-- A call that gets an answer goes on in order. -/
theorem proceed_answered (kept : Sound visits s w) {question : Call}
    {next : question.Answer → Routine Reply} (pending : w.pending i = some (.ask question next))
    {answer : question.Answer} (answered : (visits i).answer? question = some answer) :
    Sound visits s ((w.note i (.answered question)).proceed i (next answer)) := by
  -- The note is made while the call is still suspended, so it is put back there first.
  rw [← Crowd.proceed_suspend _ i (next answer)]
  have suspended : ((w.note i (.answered question)).suspend i (next answer)).pending i =
      some (next answer) := by simp [Crowd.suspend]
  cases kept.serial.phases i with
  | waiting left =>
    -- Nobody outside answers a call that waits for the operator.
    obtain ⟨first, routine, -⟩ := (visits i).demand.orderly
    rw [pending, routine, Option.some.injEq] at left
    cases left
    simp [Readings.answer?] at answered
  | holding rest left holds inside same =>
    rw [pending, Option.some.injEq] at left
    subst left
    cases inside with
    | read reads later =>
      -- A reader has answered, and the rest still comes to what the whole call comes to.
      have noted : Sound visits s (w.note i (.answered question)) :=
        kept.note_reading holds rfl (by simp [readings, reads])
      refine proceed_inside ⟨noted.serial.suspend ?_, noted.apart.suspend i _⟩ suspended holds
        (later answer)
      refine .holding _ suspended holds (later answer) ?_
      rw [Readings.turn_read _ reads answered] at same
      exact same
    | release => simp [Readings.answer?] at answered
  | closing rest reply left free closing got =>
    rw [pending, Option.some.injEq] at left
    subst left
    cases closing with
    | @announce about what _ later =>
      -- The publisher has answered, which settles nothing more.
      have noted : Sound visits s (w.note i (.answered (.announce about what))) :=
        kept.note rfl rfl
      refine proceed_closing ⟨noted.serial.suspend ?_, noted.apart.suspend i _⟩ suspended later
      refine .closing _ reply suspended free later ?_
      simpa [Crowd.suspend, Crowd.note, releases] using got
  | dropped left => simp [pending] at left

/-- A call that gets what it waits for goes on in order. -/
theorem advance (kept : Sound visits s w) (i : Nat) : Sound visits s (w.advance visits i) := by
  -- A call waits for the operator or for an answer, and without it nothing changes.
  unfold Crowd.advance
  split
  · rename_i next pending
    split
    · rename_i free
      exact kept.proceed_acquire free pending
    · exact kept
  · rename_i question next _ pending
    split
    · rename_i answer answered
      exact kept.proceed_answered pending answered
    · exact kept
  · exact kept

/-- A dropped call leaves the others in order. -/
theorem drop (kept : Sound visits s w) (i : Nat) : Sound visits s (w.drop i) := by
  -- Order of service and order of reading are kept one by one.
  refine ⟨kept.serial.drop i, ?_⟩
  unfold Crowd.drop
  split
  · refine Apart.note ?_ (show readings [(i, .dropped)] = [] from rfl)
    refine ⟨kept.apart.inside, fun j k held => ?_, kept.apart.apart⟩
    -- The operator is free now, or it is where it was.
    dsimp only at held
    split at held
    · cases held
    · exact kept.apart.latest j k held
  · exact kept.apart

/-- One action leaves calls in order. -/
theorem step (kept : Sound visits s w) (action : Action) :
    Sound visits s (w.step visits action) := by
  -- There are two actions, and each has its lemma.
  cases action with
  | advance i => exact kept.advance i
  | drop i => exact kept.drop i

/-- Any schedule leaves calls in order. -/
theorem run (kept : Sound visits s w) (schedule : List Action) :
    Sound visits s (w.run visits schedule) := by
  -- Each action leaves what the next one needs.
  induction schedule generalizing w with
  | nil => exact kept
  | cons action rest ih => exact ih (kept.step action)

end Sound

/--
Calls that overlap come to what they come to one after another.

The order is that in which they get hold of the operator. A call that is dropped before it gives the
operator back has done nothing, and one that is dropped later has done everything. This is so after
any schedule, so that nobody can see the operator in between.
-/
theorem overlap_serial (visits : Nat → Visit) (s : Starter) (schedule : List Action) :
    let w := (Crowd.start visits s).run visits schedule
    let served := (acquisitions w.log).filter (· ∈ releases w.log)
    -- No call has anything to do with readers between two readings of another one.
    (∀ i j, i ≠ j → ¬ [i, j, i] <+ readings w.log) ∧
    -- The bundles, the ledger and the starts are those of the served calls in their order.
    (acquisitions w.log).Nodup ∧ w.starter = s.after (served.map visits) ∧
    started w.log = s.starts (served.map visits) ∧
    -- A call that has returned has got what it gets in its turn.
    (∀ i reply, w.pending i = some (.done reply) → Replied visits s served i reply) ∧
    -- A call that has got hold of the operator without being served has it still, or was dropped.
    (∀ i ∈ acquisitions w.log, i ∉ served → w.holder = some i ∨ w.pending i = none) ∧
    -- The running bundles that a call names are those between two whole turns.
    ∀ i reply, (visits i).demand = .running → w.pending i = some (.done reply) →
      ∃ k, served[k]? = some i ∧
        reply = .ok (s.after ((served.take k).map visits)).running := by
  -- The crowd is in order after any schedule, and each part is read off that.
  intro w served
  have kept : Sound visits s w :=
    Sound.run ⟨Serial.start visits s, Apart.start visits s⟩ schedule
  -- The operator is given back in the order in which calls get hold of it.
  have order : served = releases w.log := kept.serial.order
  have replied : ∀ i reply, w.pending i = some (.done reply) →
      Replied visits s served i reply := by
    intro i reply returned
    rw [order]
    exact kept.serial.replied returned
  refine ⟨kept.apart.apart, kept.serial.distinct, ?_, ?_, replied, ?_, ?_⟩
  · rw [order]
    exact kept.serial.starter
  · rw [order]
    exact kept.serial.starts
  · intro i acquired unserved
    rw [order] at unserved
    exact kept.serial.unserved acquired unserved
  · -- The turn of such a call tells the bundles that run after the turns before it.
    intro i reply asks pending
    obtain ⟨k, turn, place, taken, got⟩ := replied i reply pending
    refine ⟨k, place, ?_⟩
    rw [turns_getElem?, List.getElem?_map, place] at taken
    simp only [Option.map_some, Option.some.injEq] at taken
    rw [← got, ← taken, Visit.turn_eq, ← List.map_take]
    simp [Visit.reply, asks]

-- The first call is dropped while it reads, and the third one returns while the second announces.
example :
    let visits : Nat → Visit := fun
      | 2 => { Visit.managedOn .azure with demand := .running }
      | _ => Visit.managedOn .azure
    let w := (Crowd.start visits builtin).run visits
      [.advance 0, .advance 1, .advance 0, .drop 0, .advance 1, .advance 2, .advance 1, .advance 1,
        .advance 1, .advance 2, .drop 1]
    acquisitions w.log = [0, 1, 2] ∧ releases w.log = [1, 2] ∧
      readings w.log = [0, 0, 0, 1, 1, 1, 1, 1, 1] ∧
      w.starter.running = ["AzureDisk", "AzureFile"] := by decide +kernel

end CsiOperator.Starter
