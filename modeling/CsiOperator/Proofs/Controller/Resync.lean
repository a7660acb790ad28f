import CsiOperator.Controller.Periodic
import Mathlib.Data.Nat.Find
import Mathlib.Order.WellFounded

/-! When a controller syncs, and when it ends, is decided by how long its syncs take. -/

namespace CsiOperator.Controller.Periodic

/-- A sync that has taken place: when it began, when it ended, and how. -/
structure Span where
  /-- When it began. -/
  began : Nat
  /-- When it ended. -/
  ended : Nat
  /-- How it ended. -/
  outcome : Except Failure Unit

/-- How long the syncs of a controller take, one after another, and how they end. -/
structure Course where
  /-- How long a sync takes. -/
  took : Nat → Nat
  /-- How a sync ends. -/
  outcome : Nat → Except Failure Unit

/-- The next sync in a course, which is written down. -/
def Course.sync (course : Course) (time : Nat) :
    StateM (List Span) (Nat × Except Failure Unit) := do
  -- As many syncs as have been written down have taken place before.
  let log ← get
  let ended := time + course.took log.length
  let outcome := course.outcome log.length
  set (log ++ [⟨time, ended, outcome⟩])
  return (ended, outcome)

/-- When a sync begins that is not kept back by the stop: a whole interval after the end of the sync
before it. -/
def begins (p : Periodic) (took : Nat → Nat) (first : Nat) : Nat → Nat
  -- The interval is counted from the end, so a sync that takes long delays the later ones.
  | 0 => first
  | k + 1 => p.begins took first k + took k + p.resync

/-- A sync of a course that keeps to its schedule. -/
def span (p : Periodic) (course : Course) (first k : Nat) : Span :=
  ⟨p.begins course.took first k, p.begins course.took first k + course.took k, course.outcome k⟩

variable {p : Periodic} {course : Course} {took : Nat → Nat} {first k ended : Nat} {takesDue : Bool}

/-- Syncs that take turns with intervals begin later and later. -/
theorem begins_strictMono (positive : 0 < p.resync) : StrictMono (p.begins took first) := by
  -- From one sync to the next at least the interval passes.
  apply strictMono_nat_of_lt_succ
  intro k
  rw [begins]
  omega

/-- However late the stop is, the schedule gets beyond it. -/
theorem le_begins (positive : 0 < p.resync) (k : Nat) : k ≤ p.begins took first k :=
  (begins_strictMono positive).le_apply

/-- Before the stop, a wait ends with the next sync. -/
theorem wake_due (early : ended + p.resync < p.stop) :
    p.wake ended takesDue = .due (ended + p.resync) := by
  -- Only a stop that has been given by then could end the wait instead.
  rw [wake, Wake.next_eq_due_iff]
  omega

/-- When the next sync would be after the stop, a wait ends with the stop, or at once if the stop has
been given during the sync. -/
theorem wake_stop (positive : 0 < p.resync) (late : p.stop < ended + p.resync) :
    p.wake ended takesDue = .stop (max p.stop ended) := by
  -- The sync that comes next is after the stop, whatever a tie would be decided as.
  rw [wake, Wake.next_eq_stop_iff]
  omega

/-- A sync is written down before it is seen what ends the wait after it. -/
theorem run_succ (p : Periodic) (course : Course) (takesDue : Nat → Bool) (fuel time : Nat)
    (log : List Span) :
    let ended := time + course.took log.length
    let log' := log ++ [⟨time, ended, course.outcome log.length⟩]
    (p.run course.sync (fun due => return takesDue due) (fuel + 1) time).run log =
      match p.wake ended (takesDue (ended + p.resync)) with
      | .due next => (p.run course.sync (fun due => return takesDue due) fuel next).run log'
      | .stop stopped => (some stopped, log') := by
  intro ended log'
  -- The sync hands over its end and the log, and the answer to a tie leaves the log alone.
  show (match p.wake ended (takesDue (ended + p.resync)) with
    | .due next => p.run course.sync (fun due => return takesDue due) fuel next
    | .stop stopped => return some stopped : StateM (List Span) (Option Nat)).run log' = _
  cases p.wake ended (takesDue (ended + p.resync)) <;> rfl

/-- From any sync on, a controller keeps to its schedule up to the last sync before the stop. -/
theorem run_from (positive : 0 < p.resync) {last : Nat}
    (early : ∀ k, k < last → p.begins course.took first (k + 1) < p.stop)
    (late : p.stop < p.begins course.took first (last + 1)) (takesDue : Nat → Bool) (fuel k : Nat)
    (within : k ≤ last) (log : List Span) (written : log.length = k) :
    (p.run course.sync (fun due => return takesDue due) fuel (p.begins course.took first k)).run log =
      (if last < k + fuel then some (max p.stop (p.span course first last).ended) else none,
        log ++ (List.range' k (min fuel (last + 1 - k))).map (p.span course first)) := by
  -- The syncs that are left are one fewer after each sync, as is the fuel.
  induction fuel generalizing k log with
  | zero =>
    have short : ¬ last < k := by omega
    simp [run, short]
    rfl
  | succ fuel ih =>
    subst written
    rw [run_succ]
    have left : min (fuel + 1) (last + 1 - log.length) =
        min fuel (last - log.length) + 1 := by omega
    rw [left, List.range'_succ, List.map_cons]
    rcases Nat.lt_or_eq_of_le within with before | rfl
    · -- The next sync of the schedule is due before the stop, and everything goes on from it.
      rw [wake_due (early _ before)]
      have rest := ih (log.length + 1) before
        (log ++ [p.span course first log.length]) (by simp)
      have enough : log.length + 1 + fuel = log.length + (fuel + 1) := by omega
      have others : last + 1 - (log.length + 1) = last - log.length := by omega
      rw [enough, others, List.append_assoc, List.singleton_append] at rest
      exact rest
    · -- The stop comes before the next sync, so this sync has been the last one.
      rw [wake_stop positive late]
      simp [span]

/--
A controller keeps to a schedule that only the lengths of its syncs and the stop decide.

Its syncs begin one after another, each a whole interval after the end of the one before. The first one
takes place in any case, and any other one if it begins before the stop. No sync is broken off. The
controller ends when the stop has been given and its last sync has ended. How syncs end changes nothing
of this, nor does what would be taken if a sync were due together with the stop.
-/
theorem run_keeps_schedule (p : Periodic) (took : Nat → Nat) (first : Nat) (positive : 0 < p.resync)
    (apart : ∀ k, p.begins took first (k + 1) ≠ p.stop) :
    ∃ last, (∀ k, k ≤ last ↔ k = 0 ∨ p.begins took first k < p.stop) ∧
      ∀ (outcome : Nat → Except Failure Unit) (takesDue : Nat → Bool) (fuel : Nat),
        (p.run (Course.sync ⟨took, outcome⟩) (fun due => return takesDue due) fuel first).run [] =
          (if last < fuel then some (max p.stop (p.begins took first last + took last)) else none,
            (List.range (min fuel (last + 1))).map fun k =>
              ⟨p.begins took first k, p.begins took first k + took k, outcome k⟩) := by
  -- The schedule gets beyond the stop, and the sync before it does so for the first time is the last.
  have beyond : ∃ k, p.stop < p.begins took first (k + 1) :=
    ⟨p.stop, le_begins positive (p.stop + 1)⟩
  obtain ⟨last, late, least⟩ : ∃ last, p.stop < p.begins took first (last + 1) ∧
      ∀ k, k < last → ¬ p.stop < p.begins took first (k + 1) :=
    ⟨Nat.find beyond, Nat.find_spec beyond, fun _ => Nat.find_min beyond⟩
  have early : ∀ k, k < last → p.begins took first (k + 1) < p.stop := by
    intro k before
    have := least k before
    have := apart k
    omega
  refine ⟨last, fun k => ?_, fun outcome takesDue fuel => ?_⟩
  · cases k with
    | zero => simp
    | succ k =>
      constructor
      · intro before
        exact .inr (early k before)
      · -- A sync after the last one would begin after the stop.
        rintro (impossible | before)
        · cases impossible
        · by_contra after
          have := (@begins_strictMono p took first positive).monotone
            (show last + 1 ≤ k + 1 by omega)
          omega
  · have all := @run_from p ⟨took, outcome⟩ first positive last early late takesDue fuel 0
      (Nat.zero_le _) [] rfl
    rw [Nat.zero_add, Nat.sub_zero, ← List.range_eq_range', List.nil_append] at all
    exact all

/-- With a first sync of three milliseconds, the others are due at 13, 23, and so on. -/
theorem run_keeps_schedule_tens :
    let p : Periodic := ⟨10, 25⟩
    let took : Nat → Nat := fun | 0 => 3 | _ + 1 => 0
    0 < p.resync ∧ (∀ k, p.begins took 0 (k + 1) ≠ p.stop) ∧
      ∀ (outcome : Nat → Except Failure Unit) (takesDue : Nat → Bool),
        (p.run (Course.sync ⟨took, outcome⟩) (fun due => return takesDue due) 9 0).run [] =
          (some 25, [⟨0, 3, outcome 0⟩, ⟨13, 13, outcome 1⟩, ⟨23, 23, outcome 2⟩]) := by
  -- Only the first begin has to be known, as the others follow at even distances.
  intro p took
  have tens : ∀ k, p.begins took 0 (k + 1) = 13 + 10 * k := by
    intro k
    induction k with
    | zero => rfl
    | succ k ih =>
      rw [begins, ih]
      show 13 + 10 * k + 0 + 10 = 13 + 10 * (k + 1)
      omega
  have apart : ∀ k, p.begins took 0 (k + 1) ≠ p.stop := by
    intro k
    rw [tens]
    show 13 + 10 * k ≠ 25
    omega
  refine ⟨by decide, apart, fun outcome takesDue => ?_⟩
  obtain ⟨last, schedule, runs⟩ := run_keeps_schedule p took 0 (by decide) apart
  -- The sync at 23 begins before the stop, and the one at 33 would not.
  have third : 2 ≤ last := (schedule 2).mpr (.inr (by decide))
  have fourth : ¬ 3 ≤ last := fun within => by
    have := (schedule 3).mp within
    revert this
    decide
  obtain rfl : last = 2 := by omega
  exact runs outcome takesDue 9

end CsiOperator.Controller.Periodic
