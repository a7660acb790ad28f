import CsiOperator.Ledger
import CsiOperator.Proofs.Publication.Publish
import CsiOperator.Publication.Publisher
import Mathlib.Data.List.Basic
import Mathlib.Order.Monotone.Basic

/-! A publisher publishes tick by tick, one publication after another, until it is stopped. -/

namespace CsiOperator.Publication.Publisher

open Api (RelatedObjects)

/-- What surrounds a publisher. Whatever belongs to a publication is given by its number. -/
structure Course where
  /-- The ledger, as time goes on. -/
  ledger : Nat → Ledger
  /-- How long a read takes. -/
  reading : Nat → Nat
  /-- What a read brings. -/
  found : Nat → Except Failure (Option RelatedObjects)
  /-- How long a write takes. -/
  writing : Nat → Nat
  /-- What comes back for a write. -/
  written : Nat → Except Failure Unit
  /-- Whether the tick is taken where it is there together with the stop. -/
  takesTick : Nat → Bool

/-- How far a publication has come: what time it is, and what has been asked when. -/
structure Progress where
  /-- What time it is. -/
  now : Nat
  /-- What has been asked. -/
  asked : List (Nat × Call)

/-- Asks for something that takes its time. -/
def Progress.ask (progress : Progress) (call : Call) (takes : Nat) : Progress :=
  ⟨progress.now + takes, progress.asked ++ [(progress.now, call)]⟩

/-- A publication that has taken place. -/
structure Issue where
  /-- When it began. -/
  began : Nat
  /-- When it ended. -/
  ended : Nat
  /-- What it asked, and when. -/
  asked : List (Nat × Call)
  /-- What it came to. -/
  outcome : Except Failure Bool

namespace Course

/-- What comes back for the calls of a publication. The ledger is at hand, so that it takes no time. -/
def answer (c : Course) (k : Nat) : (call : Call) → StateM Progress call.Answer
  -- Only what goes to the server takes time.
  | .ledger => fun progress => ((c.ledger progress.now).snapshot, progress.ask .ledger 0)
  | .read => fun progress => (c.found k, progress.ask .read (c.reading k))
  | .write version objects => fun progress =>
    (c.written k, progress.ask (.write version objects) (c.writing k))

/-- A publication that begins at a time. -/
def issue (c : Course) (k began : Nat) : Issue :=
  -- The end is when the last call has come back.
  let (outcome, progress) := (publish.run (c.answer k)).run ⟨began, []⟩
  ⟨began, progress.now, progress.asked, outcome⟩

/-- The next publication, which is written down. -/
def publication (c : Course) (time : Nat) : StateM (List Issue) (Nat × Except Failure Bool) := do
  -- As many publications as have been written down have taken place before.
  let log ← get
  let issue := c.issue log.length time
  set (log ++ [issue])
  return (issue.ended, issue.outcome)

/-- What is taken where the next tick is there together with the stop. -/
def choice (c : Course) (_time : Nat) : StateM (List Issue) Bool := do
  return c.takesTick (← get).length

/-- What a publication asks of the server, going by a ledger as it is when the publication begins. -/
def calls (c : Course) (k began : Nat) (ledger : Ledger) : List (Nat × Call) :=
  -- An empty ledger asks nothing of the server.
  if ledger.isEmpty then []
  else (began, .read) ::
    match c.found k with
    | .ok (some current) =>
      match merge current.objects ledger.entries with
      | some merged => [(began + c.reading k, .write current.resourceVersion merged)]
      | none => []
    | _ => []

/-- A publication looks at the ledger once, when it begins, and goes by what it has seen then. -/
theorem issue_asked (c : Course) (k began : Nat) :
    (c.issue k began).asked = (began, .ledger) :: c.calls k began (c.ledger began) := by
  -- The first question is for the ledger, and what it answers is kept to the end.
  show ((publish.run (c.answer k)).run ⟨began, []⟩).2.asked = _
  rw [publish_eq, Dialogue.run_ask_state, calls]
  show ((Dialogue.run (c.answer k) (if (!!(c.ledger began).isEmpty) = true then _ else _)).run
    ⟨began, [(began, .ledger)]⟩).2.asked = _
  cases (c.ledger began).isEmpty with
  | true => rfl
  | false =>
    -- What the read brings decides whether there is anything to write.
    show ((Dialogue.run (c.answer k) (having (c.ledger began).entries (c.found k))).run
      ⟨began + c.reading k, [(began, .ledger), (began, .read)]⟩).2.asked = _
    rcases c.found k with _ | _ | current
    · rfl
    · rfl
    · simp only [having]
      cases merge current.objects (c.ledger began).entries <;> rfl

/-- While a publication asks, time does not go back. -/
theorem run_now_le (c : Course) (k : Nat) {α : Type} (d : Dialogue Call Call.Answer α)
    (progress : Progress) : progress.now ≤ ((d.run (c.answer k)).run progress).2.now := by
  -- Each call takes its time, and so do the calls after it.
  induction d generalizing progress with
  | done value => exact le_refl _
  | ask call next ih =>
    rw [Dialogue.run_ask_state]
    refine le_trans ?_ (ih _ _)
    cases call <;> exact Nat.le_add_right _ _

/-- A publication does not end before it begins. -/
theorem began_le_ended (c : Course) (k began : Nat) : began ≤ (c.issue k began).ended :=
  c.run_now_le k publish ⟨began, []⟩

end Course

variable {p : Publisher} {c : Course}

/-- When a publisher begins to wait for a tick: at once, or when its last publication has ended. -/
def free (p : Publisher) (c : Course) : Nat → Nat
  -- A publication begins when the publisher is free and its tick is due, whichever is later.
  | 0 => 0
  | k + 1 => (c.issue k (max (p.free c k) (k * p.interval))).ended

/-- A publication that begins at its tick, or at once if its tick is overdue. -/
def issue (p : Publisher) (c : Course) (k : Nat) : Issue :=
  c.issue k (max (p.free c k) (k * p.interval))

/-- What a wait for a tick ends with. -/
def wake (p : Publisher) (c : Course) (k : Nat) : Wake :=
  .next p.stop (p.free c k) (k * p.interval) (c.takesTick k)

/-- Publications begin when they are free to, if not later. -/
theorem free_le_began (k : Nat) : p.free c k ≤ (p.issue c k).began :=
  le_max_left _ _

/-- From publication to publication, time does not go back. -/
theorem free_mono : Monotone (p.free c) := by
  -- A publication is between one wait and the next.
  apply monotone_nat_of_le_succ
  intro k
  exact le_trans (free_le_began k) (c.began_le_ended k _)

/-- A wait ends with the stop or with a publication, which is written down. -/
theorem run_succ (p : Publisher) (c : Course) (fuel now due : Nat) (log : List Issue) :
    (p.run c.publication c.choice (fuel + 1) now due).run log =
      match Wake.next p.stop now due (c.takesTick log.length) with
      | .stop time => (some time, log)
      | .due time =>
        let issue := c.issue log.length time
        (p.run c.publication c.choice fuel issue.ended (due + p.interval)).run (log ++ [issue]) := by
  -- The choice leaves the log alone, and the publication hands over its end and the log.
  show (match Wake.next p.stop now due (c.takesTick log.length) with
    | .stop time => return some time
    | .due time => do
      let told ← c.publication time
      p.run c.publication c.choice fuel told.1 (due + p.interval) :
        StateM (List Issue) (Option Nat)).run log = _
  cases Wake.next p.stop now due (c.takesTick log.length) <;> rfl

/-- The publications that take place are those before the first wait that ends with the stop. -/
theorem run_from (fuel k : Nat) : ∃ n, k ≤ n ∧ n ≤ k + fuel ∧
    (p.run c.publication c.choice fuel (p.free c k) (k * p.interval)).run
        ((List.range k).map (p.issue c)) =
      (if n < k + fuel then some (max p.stop (p.free c n)) else none,
        (List.range n).map (p.issue c)) ∧
    (∀ j, k ≤ j → j < n → p.wake c j = .due (p.issue c j).began) ∧
    (n < k + fuel → p.wake c n = .stop (max p.stop (p.free c n))) := by
  -- Each publication leaves one fewer to come, and hands over to the wait after it.
  induction fuel generalizing k with
  | zero =>
    refine ⟨k, le_refl k, le_refl k, ?_, fun j _ _ => by omega, fun _ => by omega⟩
    simp [run]
    rfl
  | succ fuel ih =>
    rw [run_succ, List.length_map, List.length_range]
    cases wakes : p.wake c k with
    | stop time =>
      -- Nothing is published any more.
      have same : time = max p.stop (p.free c k) := by
        have := (Wake.next_eq_stop_iff.mp wakes).1
        omega
      rw [wake] at wakes
      rw [wakes, same]
      refine ⟨k, le_refl k, by omega, ?_, fun j _ _ => by omega, fun _ => ?_⟩
      · rw [if_pos (by omega)]
      · rw [wake, wakes, same]
    | due time =>
      obtain rfl : time = (p.issue c k).began := (Wake.next_eq_due_iff.mp wakes).1
      obtain ⟨n, above, within, runs, earlier, ends⟩ := ih (k + 1)
      rw [List.range_succ, List.map_append, Nat.add_one_mul] at runs
      have shift : k + 1 + fuel = k + (fuel + 1) := by omega
      rw [shift] at within runs ends
      rw [wake] at wakes
      rw [wakes]
      refine ⟨n, by omega, within, runs, fun j from_k before => ?_, ends⟩
      rcases Nat.lt_or_eq_of_le from_k with later | rfl
      · exact earlier j later before
      · exact wakes

/-- When the last publication of a log ended. -/
def freed (log : List Issue) : Nat :=
  (log.getLast?.map Issue.ended).getD 0

/-- A publisher is free when its last publication has ended. -/
theorem freed_range (k : Nat) : freed ((List.range k).map (p.issue c)) = p.free c k := by
  -- Before the first publication there is none, so the publisher is free from the start.
  cases k with
  | zero => rfl
  | succ k =>
    rw [freed, List.range_succ, List.map_append, List.map_singleton, List.getLast?_concat]
    rfl

/-- A publication of a log, and when the publisher was free for it. -/
theorem of_getElem? {n k : Nat} {issue : Issue}
    (there : ((List.range n).map (p.issue c))[k]? = some issue) :
    k < n ∧ issue = p.issue c k ∧ freed (((List.range n).map (p.issue c)).take k) = p.free c k := by
  -- The publications are numbered by their places.
  rw [List.getElem?_map, Option.map_eq_some_iff] at there
  obtain ⟨j, place, rfl⟩ := there
  obtain ⟨within, rfl⟩ := List.getElem?_eq_some_iff.mp place
  rw [List.length_range] at within
  rw [List.getElem_range]
  refine ⟨within, rfl, ?_⟩
  -- What is written down before is a shorter log.
  rw [← List.map_take, List.take_range, Nat.min_eq_left within.le, freed_range]

/--
A publisher publishes in turn, and only its stop ends it.

A publication begins at its tick, or at once after the one before it if its tick is overdue by then, so
that two of them are never under way together. Each goes by the ledger as it is when it begins. However
publications end, the next one follows, until the wait for a tick ends with the stop. Once the stop has
been given, a publication begins only if its tick is overdue or there at the same time and is taken
instead of the stop.
-/
theorem publishes_in_turn (p : Publisher) (c : Course) (fuel : Nat) :
    let (stopped, log) := (p.run c.publication c.choice fuel 0 0).run []
    -- No publication begins before the earlier ones have ended.
    (∀ issue ∈ log, issue.began ≤ issue.ended) ∧ log.Pairwise (fun a b => a.ended ≤ b.began) ∧
    -- Each begins at its tick, or at once if that is overdue, and asks what the ledger says then.
    (∀ k issue, log[k]? = some issue →
      issue.began = max (freed (log.take k)) (k * p.interval) ∧
      issue.asked = (issue.began, .ledger) :: c.calls k issue.began (c.ledger issue.began)) ∧
    -- As long as no stop has been given, they go on.
    (stopped = none → log.length = fuel) ∧
    (∀ time, stopped = some time → time = max p.stop (freed log) ∧
      p.stop ≤ max (freed log) (log.length * p.interval)) ∧
    -- Whatever begins after the stop has a tick that was taken instead of it.
    ∀ k issue, log[k]? = some issue → p.stop ≤ issue.began →
      c.takesTick k = true ∧ k * p.interval ≤ max (freed (log.take k)) p.stop := by
  -- The run's log is its first issues in order, so each part is told by the number of an issue.
  obtain ⟨n, -, within, runs, earlier, ends⟩ := p.run_from (c := c) fuel 0
  rw [Nat.zero_add] at within runs ends
  rw [free, Nat.zero_mul, List.range_zero, List.map_nil] at runs
  rw [runs]
  refine ⟨fun issue there => ?_, ?_, fun k issue there => ?_, fun still => ?_, fun time ended => ?_,
    fun k issue there late => ?_⟩
  · obtain ⟨k, -, rfl⟩ := List.mem_map.mp there
    exact c.began_le_ended k _
  · -- Time does not go back from the end of one publication to the beginning of any later one.
    rw [List.pairwise_map]
    refine List.pairwise_lt_range.imp fun {i j} before => ?_
    exact le_trans (free_mono (show i + 1 ≤ j from before)) (free_le_began j)
  · obtain ⟨-, rfl, was⟩ := of_getElem? there
    rw [was]
    exact ⟨rfl, c.issue_asked k _⟩
  · -- Without an end, all publications have taken place that there was fuel for.
    split at still
    · cases still
    · rw [List.length_map, List.length_range]
      omega
  · split at ended
    · rename_i left
      obtain rfl := Option.some.inj ended
      rw [freed_range, List.length_map, List.length_range]
      have := (Wake.next_eq_stop_iff.mp (ends left)).2
      refine ⟨rfl, ?_⟩
      omega
    · cases ended
  · obtain ⟨before, rfl, was⟩ := of_getElem? there
    rw [was]
    have took := (Wake.next_eq_due_iff.mp (earlier k (Nat.zero_le k) before)).2
    have began : (p.issue c k).began = max (p.free c k) (k * p.interval) := rfl
    rw [began] at late
    -- The wait for the tick can only have ended at the stop or after it.
    rcases took with early | ⟨same, taken⟩
    · omega
    · exact ⟨taken, by omega⟩

/-- A publisher that is stopped while it publishes for five seconds may publish for every tick that has
become overdue until then. -/
theorem published_after_stop :
    let p : Publisher := ⟨1000, 1500⟩
    let c : Course := ⟨fun _ => ⟨[.clusterScoped "" "namespaces" "a"]⟩, fun | 0 => 5000 | _ + 1 => 0,
      fun _ => .ok none, fun _ => 0, fun _ => .ok (), fun _ => true⟩
    let w := (p.run c.publication c.choice 9 0 0).run []
    w.1 = some 5000 ∧ w.2.map Issue.began = [0, 5000, 5000, 5000, 5000, 5000] ∧
      ¬ ∀ issue ∈ w.2, issue.began ≤ p.stop := by
  -- The whole run is evaluated, since its publications and its choices are given.
  intro p c w
  have began : w.2.map Issue.began = [0, 5000, 5000, 5000, 5000, 5000] := by decide +kernel
  refine ⟨by decide +kernel, began, fun early => ?_⟩
  -- The second publication begins when the first one has ended, long after the stop.
  have second : 5000 ∈ w.2.map Issue.began := by
    rw [began]
    decide
  obtain ⟨issue, there, at5000⟩ := List.mem_map.mp second
  have : issue.began ≤ 1500 := early issue there
  omega

end CsiOperator.Publication.Publisher
