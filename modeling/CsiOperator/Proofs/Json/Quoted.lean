import CsiOperator.Json.Printer
import CsiOperator.Json.Tree
import CsiOperator.Proofs.Text.Numeral

/-! Strings are read from the text that is written for them. -/

namespace CsiOperator.Json

open Text (digitChar)

/-- A control character is read from its four digits. -/
theorem unit?_control {n : Nat} (control : n < 32) :
    unit? '0' '0' (digitChar (n / 16)) (digitChar (n % 16)) = some n := by
  -- There are only so many control characters, and each is tried.
  have each : ∀ n < 32, unit? '0' '0' (digitChar (n / 16)) (digitChar (n % 16)) = some n := by
    decide
  exact each n control

/-- A character of a string is read as the code unit that it stands for. -/
theorem units_escapedChar (c : Char) (rest : List Char) :
    units (escapedChar c ++ rest) = (units rest).map fun (us, rest) => (c.toNat :: us, rest) := by
  -- Each way to escape a character is one case, which the scanner undoes.
  unfold escapedChar
  split
  -- All but the last case are characters with an escape of their own.
  case h_8 quote slash _ _ _ _ _ =>
    split
    · rename_i control
      simp only [List.cons_append, List.nil_append, units, unit?_control control]
      cases units rest <;> rfl
    · -- The character stands for itself.
      rename_i visible
      have plain : units (c :: rest) = if c.toNat < 0x20 || c == '\\' then none else do
          let (more, rest) ← units rest
          return (c.toNat :: more, rest) := by
        rw [units]
        all_goals simp_all
      have other : (c == '\\') = false := beq_eq_false_iff_ne.mpr slash
      rw [List.singleton_append, plain, other]
      simp only [visible, decide_false, Bool.or_false, Bool.false_eq_true, if_false]
      cases units rest <;> rfl
  all_goals cases later : units rest <;> simp [units, later]

/-- Characters are read as the code units that they stand for, up to the closing quote. -/
theorem units_escaped (cs rest : List Char) :
    units (cs.flatMap escapedChar ++ '"' :: rest) = some (cs.map Char.toNat, rest) := by
  -- By induction on the characters, each of which is undone in front of the others.
  induction cs with
  | nil => rfl
  | cons c cs ih => simp [List.flatMap_cons, List.append_assoc, units_escapedChar, ih]

/-- No character is half of a surrogate pair, so that each code unit stands for itself. -/
theorem joinUnits_toNat (cs : List Char) : joinUnits (cs.map Char.toNat) = some cs := by
  -- Characters leave out the range of the surrogates altogether.
  have whole (c : Char) : c.toNat < 0xD800 ∨ 0xDFFF < c.toNat := by
    rcases c.valid with low | ⟨high, -⟩
    · exact .inl low
    · exact .inr high
  induction cs with
  | nil => rfl
  | cons c cs ih =>
    -- Neither branch that looks for a pair is taken, whether or not another unit follows.
    have := whole c
    cases cs with
    | nil =>
      simp only [List.map_cons, List.map_nil, joinUnits, Char.ofNat_toNat]
      rw [if_neg]
      simp only [Bool.and_eq_true, decide_eq_true_eq]
      omega
    | cons d cs =>
      simp only [List.map_cons] at ih ⊢
      rw [joinUnits, if_neg, if_neg, ih, Char.ofNat_toNat]
      · rfl
      all_goals
        simp only [Bool.and_eq_true, decide_eq_true_eq]
        omega

/-- A string is read from its text. -/
theorem string_quoted (s : String) (rest : List Char) :
    string (s.toList.flatMap escapedChar ++ '"' :: rest) = some (some s, rest) := by
  simp [string, units_escaped, joinUnits_toNat]

end CsiOperator.Json
