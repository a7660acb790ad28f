import CsiOperator.Ledger.Shelf
import CsiOperator.Proofs.Resource.History

/-! Whatever handles are used in which order, a ledger lists the first occurrences of what is recorded. -/

namespace CsiOperator.Ledger

open Condition (eraseDups_concat)

/-- The reference that a use records. -/
def Use.reference? : Use → Option RelatedObject
  -- Only one kind of use records.
  | .record object => some object
  | _ => none

/-- The references that have been recorded in the ledger of a number, with all repetitions. -/
def recorded (n : Nat) (log : List Told) : List RelatedObject :=
  log.filterMap fun told => if told.ledger = n then told.use.reference? else none

/-- What comes back from a use after references have been recorded, with all repetitions. -/
def replied (objects : List RelatedObject) : Use → Reply
  -- Repetitions are left out, so the first occurrences are what a ledger can tell.
  | .record object => .recorded (decide (object ∉ objects))
  | .snapshot => .references (!objects.eraseDups.isEmpty) objects.eraseDups
  | .size => .count objects.eraseDups.length
  | .isEmpty => .vacant objects.eraseDups.isEmpty

/-- What is recorded later comes after what has been recorded. -/
theorem recorded_append (n : Nat) (log later : List Told) :
    recorded n (log ++ later) = recorded n log ++ recorded n later :=
  List.filterMap_append ..

/-- A use records its reference in its own ledger and in no other. -/
theorem recorded_single (n : Nat) (told : Told) :
    recorded n [told] = if told.ledger = n then told.use.reference?.toList else [] := by
  -- A use may be of another ledger, or one that records nothing, and neither adds a reference.
  by_cases own : told.ledger = n
  · cases reference : told.use.reference? <;> simp [recorded, own, reference]
  · simp [recorded, own]

/-- The first occurrences in a list are the first ones in a longer list. -/
theorem eraseDups_prefix {α : Type} [BEq α] [LawfulBEq α] (xs ys : List α) :
    xs.eraseDups <+: (xs ++ ys).eraseDups := by
  -- What comes later only adds behind what has occurred.
  rw [List.eraseDups_append]
  exact List.prefix_append _ _

/-- A ledger that lists first occurrences replies accordingly. -/
theorem serve_reply {l : Ledger} {objects : List RelatedObject}
    (lists : l.entries = objects.eraseDups) (use : Use) : (l.serve use).1 = replied objects use := by
  -- The replies of a ledger are told by membership, which first occurrences share with the whole.
  cases use with
  | record object =>
    -- A reference is new when it is not listed, which is when it has not been recorded.
    by_cases inside : object ∈ objects <;> simp [serve, replied, record, lists, inside]
  | snapshot => simp [serve, replied, snapshot, isEmpty, lists]
  | size => simp [serve, replied, size, lists]
  | isEmpty => simp [serve, replied, isEmpty, lists]

/-- A use leaves the first occurrences of what has been recorded, its own reference included. -/
theorem serve_entries {l : Ledger} {objects : List RelatedObject}
    (lists : l.entries = objects.eraseDups) (use : Use) :
    (l.serve use).2.entries = (objects ++ use.reference?.toList).eraseDups := by
  -- Only a record adds a reference, and only one that has not occurred.
  cases use with
  | record object =>
    show (l.record object).2.entries = (objects ++ [object]).eraseDups
    rw [eraseDups_concat]
    by_cases inside : object ∈ objects <;> simp [record, lists, inside]
  | snapshot | size | isEmpty => simpa [serve, Use.reference?] using lists

namespace Shelf

variable {s : Shelf} {log : List Told}

/-- The references that a handle shows. -/
def seen (s : Shelf) (h : Handle) : List RelatedObject :=
  (s.ledgers[h.ledger]?.map (·.entries)).getD []

/-- What the ledgers of a process and the uses of them so far say about one another. -/
structure Kept (s : Shelf) (log : List Told) : Prop where
  /-- Every handle leads to a ledger. -/
  leads : ∀ h ∈ s.handles, h.ledger < s.ledgers.length
  /-- Every ledger lists the first occurrences of what has been recorded in it. -/
  lists : ∀ n l, s.ledgers[n]? = some l → l.entries = (recorded n log).eraseDups
  /-- Nothing has been recorded in ledgers that are yet to be made. -/
  unused : ∀ n, s.ledgers.length ≤ n → recorded n log = []

namespace Kept

/-- A process without ledgers has used none. -/
theorem empty : Kept Shelf.empty [] := by
  constructor <;> simp [Shelf.empty, recorded]

/-- A handle shows the first occurrences of what has been recorded in its ledger. -/
theorem seen (kept : Kept s log) {h : Handle} (held : h ∈ s.handles) :
    s.seen h = (recorded h.ledger log).eraseDups := by
  -- The handle leads to a ledger that is there, so the look-up does not fall back.
  have found := List.getElem?_eq_getElem (kept.leads h held)
  rw [Shelf.seen, found, Option.map_some, Option.getD_some]
  exact kept.lists h.ledger _ found

/-- Another handle for a ledger that is there changes nothing else. -/
theorem add (kept : Kept s log) {h : Handle} (leads : h.ledger < s.ledgers.length) :
    Kept (s.add h) log := by
  -- Only the handles grow, and the new one leads to a ledger by assumption.
  refine ⟨?_, kept.lists, kept.unused⟩
  intro other held
  obtain old | new := List.mem_append.mp held
  · exact kept.leads other old
  · rw [List.mem_singleton.mp new]
    exact leads

/-- A new ledger comes with its first handle, and lists nothing. -/
theorem create (kept : Kept s log) : Kept (s.step .create).1 log := by
  -- The ledger is put on the shelf first, since its handle may only lead to one that is there.
  have more : Kept { s with ledgers := s.ledgers ++ [Ledger.empty] } log := by
    constructor
    · intro h held
      have leads := kept.leads h held
      simp only [List.length_append, List.length_singleton]
      omega
    · intro n l found
      rcases Nat.lt_or_ge n s.ledgers.length with old | new
      · rw [List.getElem?_append_left old] at found
        exact kept.lists n l found
      · -- Nothing has been recorded in the new one before it was made.
        rw [List.getElem?_append_right new, List.getElem?_singleton] at found
        obtain ⟨-, new_eq⟩ := Option.ite_none_right_eq_some.mp found
        rw [← Option.some.inj new_eq, kept.unused n new]
        rfl
    · intro n beyond
      simp only [List.length_append, List.length_singleton] at beyond
      exact kept.unused n (by omega)
  exact more.add (by simp)

/-- A use that a handle is good for takes place, and it is answered by what has been recorded. -/
theorem use_eq (kept : Kept s log) {h : Handle} (held : h ∈ s.handles) {use : Use}
    (allowed : h.allows use = true) :
    ∃ l, s.ledgers[h.ledger]? = some l ∧ s.use h use =
      ({ s with ledgers := s.ledgers.set h.ledger (l.serve use).2 },
        some ⟨h.ledger, use, replied (recorded h.ledger log) use⟩) := by
  -- The handle leads to a ledger, which lists first occurrences, so its reply is told by them.
  have found := List.getElem?_eq_getElem (kept.leads h held)
  refine ⟨_, found, ?_⟩
  simp only [Shelf.use, found, allowed, if_true]
  rw [serve_reply (kept.lists h.ledger _ found)]

/-- A use keeps what is said. -/
theorem use (kept : Kept s log) {h : Handle} (held : h ∈ s.handles) (use : Use) :
    Kept (s.use h use).1 (log ++ (s.use h use).2.toList) := by
  -- A use that the handle is not good for changes nothing and records nothing.
  by_cases allowed : h.allows use = true
  · obtain ⟨l, found, eq⟩ := kept.use_eq held allowed
    rw [eq]
    constructor
    · intro other held
      rw [List.length_set]
      exact kept.leads other held
    · intro n after found'
      rw [recorded_append, Option.toList_some, recorded_single]
      rcases eq_or_ne h.ledger n with rfl | other
      · -- The ledger of the handle lists what this use records.
        rw [List.getElem?_set_self (kept.leads h held)] at found'
        obtain rfl := Option.some.inj found'
        rw [if_pos rfl]
        exact serve_entries (kept.lists _ l found) use
      · rw [List.getElem?_set_ne other] at found'
        rw [if_neg other, List.append_nil]
        exact kept.lists n after found'
    · intro n beyond
      rw [List.length_set] at beyond
      have other : h.ledger ≠ n := by
        have leads := kept.leads h held
        omega
      rw [recorded_append, Option.toList_some, recorded_single, if_neg other, List.append_nil]
      exact kept.unused n beyond
  · -- A use that the handle is not good for does not take place.
    have nothing : s.use h use = (s, none) := by
      simp only [Shelf.use, allowed]
      cases s.ledgers[h.ledger]? <;> rfl
    rw [nothing, Option.toList_none, List.append_nil]
    exact kept

/-- Every action keeps what is said. -/
theorem step (kept : Kept s log) (action : Action) :
    Kept (s.step action).1 (log ++ (s.step action).2.toList) := by
  -- One case for each action; only a use records anything.
  cases action with
  | create =>
    rw [show (s.step .create).2 = none from rfl, Option.toList_none, List.append_nil]
    exact kept.create
  | copy i =>
    simp only [Shelf.step, Option.toList_none, List.append_nil]
    cases found : s.handles[i]? with
    | none => exact kept
    | some h => exact kept.add (kept.leads h (List.mem_of_getElem? found))
  | reader i =>
    simp only [Shelf.step, Option.toList_none, List.append_nil]
    cases found : s.handles[i]? with
    | none => exact kept
    | some h => exact kept.add (kept.leads h (List.mem_of_getElem? found))
  | use i use =>
    simp only [Shelf.step]
    cases found : s.handles[i]? with
    | none => simpa using kept
    | some h => exact kept.use (List.mem_of_getElem? found) use

/-- Every run keeps what is said. -/
theorem run (kept : Kept s log) (actions : List Action) :
    Kept (s.run actions).1 (log ++ (s.run actions).2) := by
  -- What an action tells is told before what the later ones tell.
  induction actions generalizing s log with
  | nil => simpa [Shelf.run] using kept
  | cons action rest ih =>
    have later := ih (kept.step action)
    rwa [List.append_assoc] at later

end Kept

/-- Two runs one after another are one run. -/
theorem run_append (s : Shelf) (actions later : List Action) : s.run (actions ++ later) =
    (((s.run actions).1.run later).1, (s.run actions).2 ++ ((s.run actions).1.run later).2) := by
  -- By induction on the first run, whose actions are the ones taken earlier.
  induction actions generalizing s with
  | nil => rfl
  | cons action rest ih => simp only [List.cons_append, run, ih, List.append_assoc]

/-- No action takes a handle away. -/
theorem step_handles (s : Shelf) (action : Action) : s.handles <+: (s.step action).1.handles := by
  -- Handles are only put behind others, if a handle is there to be copied at all.
  cases action with
  | create => exact List.prefix_append _ _
  | copy i | reader i =>
    simp only [step]
    cases s.handles[i]? with
    | none => exact List.prefix_rfl
    | some h => exact List.prefix_append _ _
  | use i use =>
    simp only [step]
    cases s.handles[i]? with
    | none => exact List.prefix_rfl
    | some h =>
      simp only [Shelf.use]
      cases s.ledgers[h.ledger]? with
      | none => exact List.prefix_rfl
      | some l => by_cases allowed : h.allows use = true <;> simp [allowed]

/-- No run takes a handle away. -/
theorem run_handles (s : Shelf) (actions : List Action) : s.handles <+: (s.run actions).1.handles := by
  -- By induction on the run, along which each step keeps the handles in front.
  induction actions generalizing s with
  | nil => exact List.prefix_rfl
  | cons action rest ih => exact (s.step_handles action).trans (ih _)

/--
All handles of a ledger see its recorded references in the order of first occurrence, each once.

Handles are made and used in any order. A use is answered by what has been recorded in the ledger
before, through whichever handle, and what a handle sees is the beginning of what it sees later.
-/
theorem handles_see_firsts (actions : List Action) :
    let s := (empty.run actions).1
    let log := (empty.run actions).2
    -- Every handle shows the first occurrences of what has been recorded in its ledger.
    (∀ h ∈ s.handles, s.seen h = (recorded h.ledger log).eraseDups) ∧
    -- A use tells whether its reference is a first occurrence, or what has been recorded.
    (∀ i h use, s.handles[i]? = some h → h.allows use = true →
      (s.step (.use i use)).2 = some ⟨h.ledger, use, replied (recorded h.ledger log) use⟩) ∧
    -- A handle made from another one leads to the same ledger.
    (∀ i h, s.handles[i]? = some h → (s.step (.copy i)).1.handles = s.handles ++ [h] ∧
      (s.step (.reader i)).1.handles = s.handles ++ [⟨h.ledger, true⟩]) ∧
    -- Whatever is done later, a handle still sees what it sees now, and perhaps more behind it.
    (∀ later, let t := (empty.run (actions ++ later)).1
      ∀ h ∈ s.handles, h ∈ t.handles ∧ s.seen h <+: t.seen h) ∧
    -- References are the same when they agree in group, resource, namespace and name.
    ∀ a b : RelatedObject, (a == b) = true ↔
      a.group = b.group ∧ a.resource = b.resource ∧ a.space = b.space ∧ a.name = b.name := by
  -- The run keeps the invariant from the empty shelf, and each part of the claim reads it off.
  intro s log
  have kept : Kept s log := Kept.empty.run actions
  refine ⟨fun h held => kept.seen held, ?_, ?_, ?_, ?_⟩
  · intro i h use found allowed
    obtain ⟨l, -, eq⟩ := kept.use_eq (List.mem_of_getElem? found) allowed
    simp only [step, found, eq]
  · intro i h found
    simp [step, found, add]
  · intro later t h held
    -- The longer run has the log of the shorter one in front.
    have whole : Kept t (log ++ (s.run later).2) := by
      have whole := Kept.empty.run (actions ++ later)
      rw [run_append] at whole
      simpa [t, run_append] using whole
    have still : h ∈ t.handles := by
      have handles := (s.run_handles later).subset held
      simpa [t, run_append] using handles
    refine ⟨still, ?_⟩
    rw [kept.seen held, whole.seen still, recorded_append]
    exact eraseDups_prefix _ _
  · intro a b
    rw [beq_iff_eq, RelatedObject.mk.injEq]

/-- A reader that was made before anything was recorded sees what is recorded through two handles. -/
theorem handles_see_firsts_shared :
    let first := RelatedObject.clusterScoped "operator.openshift.io" "clustercsidrivers" "b"
    let second := RelatedObject.clusterScoped "operator.openshift.io" "clustercsidrivers" "a"
    let actions : List Action := [.create, .reader 0, .use 0 (.record first), .copy 0,
      .use 2 (.record second), .use 2 (.record first)]
    let s := (empty.run actions).1
    s.handles[1]? = some ⟨0, true⟩ ∧ s.handles[2]? = some ⟨0, false⟩ ∧
      (s.step (.use 1 .snapshot)).2 = some ⟨0, .snapshot, .references true [first, second]⟩ ∧
      (s.step (.use 2 (.record second))).2 = some ⟨0, .record second, .recorded false⟩ := by
  -- The handles are found by evaluation, and the law says what they see.
  intro first second actions s
  have made : s.handles[1]? = some ⟨0, true⟩ ∧ s.handles[2]? = some ⟨0, false⟩ := by decide +kernel
  obtain ⟨-, told, -⟩ := handles_see_firsts actions
  refine ⟨made.1, made.2, ?_, ?_⟩
  · rw [told 1 _ .snapshot made.1 (by decide +kernel)]
    decide +kernel
  · rw [told 2 _ (.record second) made.2 (by decide +kernel)]
    decide +kernel

end Shelf

end CsiOperator.Ledger
