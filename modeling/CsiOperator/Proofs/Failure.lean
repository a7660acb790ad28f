import CsiOperator.Failure

/-! An operation in steps succeeds when every one of its steps does. -/

namespace CsiOperator.Failure

variable {ε α β : Type}

/-- A second step decides about the outcome once the first one has succeeded. -/
theorem bind_ok_iff (first : Except ε α) (next : α → Except ε β) (value : β) :
    (first >>= next) = .ok value ↔ ∃ found, first = .ok found ∧ next found = .ok value := by
  cases first <;> simp [Bind.bind, Except.bind]

/-- Two steps fail when the first one does, or else the second one. -/
theorem bind_error_iff (first : Except ε α) (next : α → Except ε β) (failure : ε) :
    (first >>= next) = .error failure ↔
      first = .error failure ∨ ∃ found, first = .ok found ∧ next found = .error failure := by
  cases first <;> simp [Bind.bind, Except.bind]

/-- A step that has succeeded hands its value on. -/
theorem ok_bind (found : α) (next : α → Except ε β) :
    ((.ok found : Except ε α) >>= next) = next found :=
  rfl

/-- Nothing succeeds after a failure. -/
theorem throw_bind_ok_iff (failure : ε) (next : α → Except ε β) (value : β) :
    ((throw failure : Except ε α) >>= next) = .ok value ↔ False := by
  simp [bind_ok_iff, throw, throwThe, MonadExceptOf.throw]

/-- A value that is returned is the outcome. -/
theorem pure_ok_iff (found value : α) : (pure found : Except ε α) = .ok value ↔ found = value :=
  Except.ok.injEq found value ▸ Iff.rfl

/-- What is there after an operation is what it came to. -/
theorem toOption_eq_some_iff (outcome : Except ε α) (value : α) :
    outcome.toOption = some value ↔ outcome = .ok value := by
  cases outcome <;> simp [Except.toOption]

/-- An operation has succeeded when there is something that it came to. -/
theorem isOk_iff (outcome : Except ε α) :
    outcome.isOk = true ↔ ∃ value, outcome = .ok value := by
  cases outcome <;> simp [Except.isOk, Except.toBool]

/-- What has been read of a document is the outcome of the operation. -/
theorem ofRead_ok_iff (document : String) (outcome : Except Decode.Fault α) (value : α) :
    ofRead document outcome = .ok value ↔ outcome = .ok value := by
  cases outcome <;> simp [ofRead]

end CsiOperator.Failure
