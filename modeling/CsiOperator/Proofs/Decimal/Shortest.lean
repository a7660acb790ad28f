import CsiOperator.Decimal.Shortest

/-! The shortest decimal of a double that is not zero is not zero either. -/

namespace CsiOperator.Decimal

/-- Nothing is left of a decimal that is not zero but its trailing zeros. -/
theorem trimmed_digits {digits : Nat} (nonzero : digits ≠ 0) (exponent : Int) (fuel : Nat) :
    (Scaled.trimmed digits exponent fuel).digits ≠ 0 := by
  -- A zero is taken off only where another digit stands in front of it.
  induction fuel generalizing digits exponent with
  | zero => exact nonzero
  | succ fuel ih =>
    rw [Scaled.trimmed]
    split
    · rename_i trailing
      simp only [Bool.and_eq_true, bne_iff_ne, beq_iff_eq] at trailing
      exact ih (by omega) _
    · exact nonzero

/-- Zero lies below the midpoint between a double and the next one towards zero. -/
theorem digits_of_readsBack {x : Binary64} {d : Scaled} (nonzero : x.significand ≠ 0)
    (back : readsBack x d = true) : d.digits ≠ 0 := by
  -- Zero would have to lie above the lower end of what reads back as the double.
  intro zero
  -- Scaling by a power leaves a number positive that is so.
  have scaled (n : Nat) (e : Int) (base : Nat) (two : 2 ≤ base) (positive : 0 < n) :
      0 < if e < 0 then n else n * Nat.pow base e.natAbs := by
    split
    · exact positive
    · exact Nat.mul_pos positive (Nat.pow_pos (by omega))
  simp only [readsBack, zero, Nat.zero_mul, ite_self, Nat.mul_zero] at back
  generalize lowest : (if (x.significand == wordBound 52 && decide (x.exponent > -1074)) = true
    then 4 * x.significand - 1 else 4 * x.significand - 2) = low at back
  have positive : 0 < low := by
    rw [← lowest]
    split <;> omega
  have above := scaled _ (-d.exponent) 10 (by omega) (scaled low x.exponent 2 (by omega) positive)
  -- The bound itself counts as inside for an even significand.
  split at back
  all_goals
    simp only [Bool.and_eq_true, decide_eq_true_eq] at back
    omega

/-- Whatever precision is needed, the decimal is not zero. -/
theorem shortestFrom_digits {x : Binary64} {num : Nat} (nonzero : x.significand ≠ 0)
    (positive : num ≠ 0) (den : Nat) (power : Int) (fuel : Nat) :
    (shortestFrom x num den power fuel).digits ≠ 0 := by
  -- With each precision either the decimal that is found reads back, or the next precision is
  -- tried.
  induction fuel generalizing power with
  | zero => exact positive
  | succ fuel ih =>
    rw [shortestFrom]
    split
    · rename_i d found
      exact trimmed_digits (digits_of_readsBack nonzero (List.find?_some found)) _ _
    · exact ih _

/-- The shortest decimal of a double that is not zero is not zero. -/
theorem shortest_digits {x : Binary64} (nonzero : x.significand ≠ 0) :
    (shortest x).digits ≠ 0 := by
  -- The ratio of a double that is not zero has a positive numerator.
  have positive : x.ratio.1 ≠ 0 := by
    unfold Binary64.ratio
    split
    · exact nonzero
    · exact Nat.mul_ne_zero nonzero (Nat.ne_of_gt (Nat.pow_pos (by omega)))
  exact shortestFrom_digits nonzero positive _ _ _

end CsiOperator.Decimal
