/-! Waiting until something is due, or until the operator stops. -/

namespace CsiOperator

/-- What ends a wait. -/
inductive Wake where
  /-- What has been waited for is due. -/
  | due (time : Nat)
  /-- The operator stops. -/
  | stop (time : Nat)
  deriving DecidableEq, Repr

namespace Wake

/-- What ends a wait that begins at a time. What is overdue comes at once, and so does the stop when it
has been given before. When both are there together, either may be taken. -/
def next (stop now due : Nat) (takesDue : Bool) : Wake :=
  -- What is overdue is due now, and a stop that has been given already stops now.
  let due := max now due
  let stop := max now stop
  if due < stop || (due == stop && takesDue) then .due due else .stop stop

variable {stop now due time : Nat} {takesDue : Bool}

/-- A wait ends with what is due, unless the stop is there before it or is taken instead. -/
theorem next_eq_due_iff : next stop now due takesDue = .due time ↔ time = max now due ∧
    (max now due < max now stop ∨ max now due = max now stop ∧ takesDue = true) := by
  -- Only the two ends of the wait are compared, not what they are made of.
  unfold next
  generalize max now due = dueEnd, max now stop = stopEnd
  simp only [Bool.or_eq_true, decide_eq_true_eq, Bool.and_eq_true, beq_iff_eq]
  split <;> simp_all [eq_comm]

/-- A wait ends with the stop, unless something is due before it or is taken instead. -/
theorem next_eq_stop_iff : next stop now due takesDue = .stop time ↔ time = max now stop ∧
    (max now stop < max now due ∨ max now stop = max now due ∧ takesDue = false) := by
  unfold next
  generalize max now due = dueEnd, max now stop = stopEnd
  simp only [Bool.or_eq_true, decide_eq_true_eq, Bool.and_eq_true, beq_iff_eq]
  split
  · rename_i first
    rcases first with early | ⟨same, taken⟩
    · simp only [reduceCtorEq, false_iff, not_and, not_or]
      intro _
      omega
    · simp [same, taken]
  · rename_i first
    -- What is not due first comes later, or at the same time when the stop is taken then.
    have order : stopEnd < dueEnd ∨ stopEnd = dueEnd ∧ takesDue = false := by
      cases takesDue <;> simp_all <;> omega
    rw [Wake.stop.injEq, and_iff_left order]
    exact eq_comm

end Wake

end CsiOperator
