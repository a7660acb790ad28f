import CsiOperator.Text.Numeral
import Mathlib.Algebra.Group.Nat.Defs

/-! Digits denote the natural that they are the digits of. -/

namespace CsiOperator.Text

variable {base n : Nat}

/-- One more digit at the end counts once, and those before it count for more. -/
theorem ofDigits_concat (base : Nat) (ds : List Nat) (d : Nat) :
    ofDigits base (ds ++ [d]) = base * ofDigits base ds + d := by
  simp [ofDigits]

/-- Zeros in front count for nothing. -/
theorem ofDigits_zeros (base k : Nat) (ds : List Nat) :
    ofDigits base (List.replicate k 0 ++ ds) = ofDigits base ds := by
  -- Each zero in front multiplies nothing by the base.
  induction k with
  | zero => rfl
  | succ k ih => simpa [ofDigits, List.replicate_succ] using ih

/-- A natural below the base is its own digit. -/
theorem digits_of_lt (small : n < base) : digits base n = [n] := by
  rw [digits, dif_pos (.inl small)]

/-- The digits of a larger natural are those of its quotient by the base, and then its remainder. -/
theorem digits_of_le (two : 2 ≤ base) (large : base ≤ n) :
    digits base n = digits base (n / base) ++ [n % base] := by
  rw [digits, dif_neg (by omega)]

/-- Digits denote the natural again. -/
theorem ofDigits_digits (two : 2 ≤ base) (n : Nat) : ofDigits base (digits base n) = n := by
  -- The induction follows the division by the base.
  induction n using Nat.strongRecOn with
  | _ n ih =>
    rcases Nat.lt_or_ge n base with small | large
    · simp [digits_of_lt small, ofDigits]
    · rw [digits_of_le two large, ofDigits_concat, ih _ (Nat.div_lt_self (by omega) (by omega))]
      exact Nat.div_add_mod n base

/-- Every digit is below the base. -/
theorem lt_of_mem_digits (two : 2 ≤ base) {n d : Nat} (member : d ∈ digits base n) : d < base := by
  -- The last digit is a remainder, and the others are those of the quotient.
  induction n using Nat.strongRecOn with
  | _ n ih =>
    rcases Nat.lt_or_ge n base with small | large
    · rw [digits_of_lt small, List.mem_singleton] at member
      omega
    · rw [digits_of_le two large, List.mem_append, List.mem_singleton] at member
      rcases member with front | rfl
      · exact ih _ (Nat.div_lt_self (by omega) (by omega)) front
      · exact Nat.mod_lt _ (by omega)

/-- There is always a digit, and the first one is zero only for zero itself. -/
theorem digits_head (two : 2 ≤ base) (n : Nat) :
    ∃ d ds, digits base n = d :: ds ∧ (n ≠ 0 → d ≠ 0) := by
  -- The induction is on the number itself, as its quotient is what the other digits come from.
  induction n using Nat.strongRecOn with
  | _ n ih =>
    rcases Nat.lt_or_ge n base with small | large
    · exact ⟨n, [], digits_of_lt small, id⟩
    -- A larger natural has the first digit of its quotient, which is not zero.
    · obtain ⟨d, ds, front, positive⟩ := ih (n / base) (Nat.div_lt_self (by omega) (by omega))
      have quotient : n / base ≠ 0 := by
        have := Nat.div_pos large (by omega)
        omega
      exact ⟨d, ds ++ [n % base], by rw [digits_of_le two large, front]; rfl,
        fun _ => positive quotient⟩

/-- A natural below a power of the base has at most so many digits. -/
theorem digits_length_le (two : 2 ≤ base) {width n : Nat} (bounded : n < base ^ (width + 1)) :
    (digits base n).length ≤ width + 1 := by
  -- One power of the base is one more digit.
  induction width generalizing n with
  | zero =>
    have small : n < base := by simpa using bounded
    simp [digits_of_lt small]
  | succ width ih =>
    rcases Nat.lt_or_ge n base with small | large
    · simp [digits_of_lt small]
    · -- The quotient has one digit less.
      have fewer : n / base < base ^ (width + 1) := by
        rw [Nat.div_lt_iff_lt_mul (by omega)]
        simpa [Nat.pow_succ] using bounded
      have := ih fewer
      rw [digits_of_le two large, List.length_append, List.length_singleton]
      omega

/-- A digit below ten is written as a decimal digit. -/
theorem isDigit_digitChar {d : Nat} (small : d < 10) : isDigit (digitChar d) = true := by
  -- There are only ten of them to look at.
  have each : ∀ d < 10, isDigit (digitChar d) = true := by decide
  exact each d small

/-- A digit below ten is written as many places after zero. -/
theorem digitChar_sub {d : Nat} (small : d < 10) : (digitChar d).toNat - 48 = d := by
  -- There are only ten of them to look at.
  have each : ∀ d < 10, (digitChar d).toNat - 48 = d := by decide
  exact each d small

/-- Only zero is written as zero. -/
theorem digitChar_ne_zero {d : Nat} (small : d < 10) (positive : d ≠ 0) : digitChar d ≠ '0' := by
  -- There are only ten of them to look at.
  have each : ∀ d < 10, d ≠ 0 → digitChar d ≠ '0' := by decide
  exact each d small positive

/-- Written decimal digits are decimal digits. -/
theorem all_isDigit_map {ds : List Nat} (small : ∀ d ∈ ds, d < 10) :
    ∀ c ∈ ds.map digitChar, isDigit c = true := by
  -- Every character is written for one of the digits.
  intro c member
  obtain ⟨d, listed, rfl⟩ := List.mem_map.mp member
  exact isDigit_digitChar (small d listed)

/-- Decimal digits go on from what has been read before them. -/
theorem foldl_map_digitChar {ds : List Nat} (small : ∀ d ∈ ds, d < 10) (start : Nat) :
    (ds.map digitChar).foldl (fun n c => n * 10 + (c.toNat - 48)) start =
      ds.foldl (fun n d => 10 * n + d) start := by
  -- Both read from the left, and each character counts as its digit.
  induction ds generalizing start with
  | nil => rfl
  | cons d rest ih =>
    obtain ⟨first, others⟩ := List.forall_mem_cons.mp small
    rw [List.map_cons, List.foldl_cons, List.foldl_cons, digitChar_sub first, ih others,
      Nat.mul_comm]

/-- Padding puts zeros in front. -/
theorem padded_ofList (width : Nat) (cs : List Char) :
    (padded width (String.ofList cs)).toList = List.replicate (width - cs.length) '0' ++ cs := by
  simp [padded]

/-- A natural padded to a width is written in digits that denote it, and has just that width if it is
below that power of the base. -/
theorem padded_digits (two : 2 ≤ base) (width n : Nat) :
    ∃ ds : List Nat, ds ≠ [] ∧ (∀ d ∈ ds, d < base) ∧ ofDigits base ds = n ∧
      (0 < width → n < base ^ width → ds.length = width) ∧
      (padded width (String.ofList ((digits base n).map digitChar))).toList =
        ds.map digitChar := by
  -- The first digit is needed only to see that there is one.
  obtain ⟨first, rest, front, -⟩ := digits_head two n
  -- The zeros that fill up the width are digits too, and count for nothing.
  refine ⟨List.replicate (width - (digits base n).length) 0 ++ digits base n, ?_, ?_, ?_, ?_, ?_⟩
  · simp [front]
  · intro d member
    rcases List.mem_append.mp member with zero | digit
    · have : d = 0 := List.eq_of_mem_replicate zero
      omega
    · exact lt_of_mem_digits two digit
  · rw [ofDigits_zeros, ofDigits_digits two]
  · intro positive bounded
    obtain ⟨w, rfl⟩ : ∃ w, width = w + 1 := ⟨width - 1, by omega⟩
    have fits := digits_length_le two bounded
    rw [List.length_append, List.length_replicate]
    omega
  · rw [padded_ofList, List.length_map, List.map_append, List.map_replicate]
    rfl

/-- Digits are taken up to the first character that is none. -/
theorem takeWhile_digits {ds rest : List Char} (digits : ∀ c ∈ ds, isDigit c = true)
    (stops : ∀ c ∈ rest.head?, isDigit c = false) : (ds ++ rest).takeWhile isDigit = ds := by
  -- All digits are taken, and it depends on the next character that no more are.
  rw [List.takeWhile_append_of_pos digits]
  cases rest with
  | nil => simp
  | cons c rest => simp [stops c rfl]

/-- What follows digits begins with the first character that is none. -/
theorem dropWhile_digits {ds rest : List Char} (digits : ∀ c ∈ ds, isDigit c = true)
    (stops : ∀ c ∈ rest.head?, isDigit c = false) : (ds ++ rest).dropWhile isDigit = rest := by
  -- All digits are dropped, and the next character stays.
  rw [List.dropWhile_append_of_pos digits]
  cases rest with
  | nil => rfl
  | cons c rest => simp [stops c rfl]

/-- A natural is written in decimal digits. -/
theorem isDigit_of_mem_decimal {n : Nat} : ∀ c ∈ (decimal n).toList, isDigit c = true := by
  -- All digits of a decimal are below ten.
  rw [decimal, String.toList_ofList]
  exact all_isDigit_map fun d member => lt_of_mem_digits (by omega) member

/-- A natural is written with at least one digit, which is zero only for zero itself. -/
theorem decimal_head (n : Nat) : ∃ c cs, (decimal n).toList = c :: cs ∧ (n ≠ 0 → c ≠ '0') := by
  -- The digits in base ten have a leading one, which is written as a character.
  obtain ⟨d, ds, front, positive⟩ := digits_head (by decide : 2 ≤ 10) n
  -- The digits of a natural in base ten begin like that already, and a digit is written as itself.
  have small : d < 10 := lt_of_mem_digits (n := n) (by omega) (front ▸ List.mem_cons_self)
  refine ⟨digitChar d, ds.map digitChar, by rw [decimal, String.toList_ofList, front]; rfl, ?_⟩
  exact fun nonzero => digitChar_ne_zero small (positive nonzero)

end CsiOperator.Text
