import CsiOperator.Text.Blank
import Mathlib.Data.List.DropRight

/-! Trimming takes away blanks at both ends and nothing else. -/

namespace CsiOperator.Text

/-- Cutting at a mark is the splitting of the standard library. -/
theorem splitAt_eq_splitOn {α : Type} [BEq α] (mark : α) (xs : List α) :
    splitAt mark xs = xs.splitOn mark := by
  -- Both put an element in front of the first piece, or begin a new one.
  induction xs with
  | nil => simp [splitAt]
  | cons x rest ih =>
    -- There is always a first piece for an element that is no mark.
    obtain ⟨piece, pieces, split⟩ := List.exists_cons_of_ne_nil (List.splitOn_ne_nil mark rest)
    rw [splitAt, List.splitOn_cons_eq_if_modifyHead, ih, split]
    rfl

/-- Trimming drops blanks in front, and then those at the end. -/
theorem trimChars_eq (cs : List Char) :
    trimChars cs = (cs.dropWhile isBlank).rdropWhile isBlank := rfl

/-- A blank in front does not count. -/
theorem trimChars_cons {c : Char} (blank : isBlank c = true) (cs : List Char) :
    trimChars (c :: cs) = trimChars cs := by
  simp [trimChars_eq, blank]

/-- Dropping at the end never gets past an element that stays. -/
theorem rdropWhile_append {α : Type} {p : α → Bool} {x : α} (stays : ¬ p x = true)
    (front xs : List α) :
    (front ++ x :: xs).rdropWhile p = front ++ x :: xs.rdropWhile p := by
  -- Induction from the end of the text, where the dropping takes place.
  induction xs using List.reverseRecOn with
  | nil => exact List.rdropWhile_concat_neg _ _ _ stays
  | append_singleton xs y ih =>
    rw [← List.cons_append, ← List.append_assoc]
    by_cases drops : p y = true
    · rw [List.rdropWhile_concat_pos _ _ _ drops, List.rdropWhile_concat_pos _ _ _ drops, ih]
    · rw [List.rdropWhile_concat_neg _ _ _ drops, List.rdropWhile_concat_neg _ _ _ drops,
        List.append_assoc]
      rfl

/-- Behind a character that is not blank only the blanks at the end go. -/
theorem trimChars_cons_of_not {c : Char} (visible : ¬ isBlank c = true) (cs : List Char) :
    trimChars (c :: cs) = c :: cs.rdropWhile isBlank := by
  -- Nothing is dropped in front, where the visible character stands.
  rw [trimChars_eq, List.dropWhile_cons_of_neg visible]
  exact rdropWhile_append visible [] cs

/-- A blank at the end does not count. -/
theorem trimChars_concat {c : Char} (blank : isBlank c = true) (cs : List Char) :
    trimChars (cs ++ [c]) = trimChars cs := by
  -- Either the text is blank altogether, or its first visible character stands still.
  induction cs with
  | nil => simp [trimChars_eq, blank]
  | cons d rest ih =>
    by_cases front : isBlank d = true
    · -- A blank in front goes first, whatever stands at the end.
      rw [List.cons_append, trimChars_cons front, trimChars_cons front]
      exact ih
    · rw [List.cons_append, trimChars_cons_of_not front, trimChars_cons_of_not front,
        List.rdropWhile_concat_pos _ _ _ blank]

/-- Trimming twice is trimming once. -/
@[simp] theorem trimChars_trimChars (cs : List Char) : trimChars (trimChars cs) = trimChars cs := by
  -- Blanks in front go, and behind the first visible character dropping twice is dropping once.
  induction cs with
  | nil => rfl
  | cons c rest ih =>
    by_cases front : isBlank c = true
    · rw [trimChars_cons front]
      exact ih
    · rw [trimChars_cons_of_not front, trimChars_cons_of_not front, List.rdropWhile_idempotent]

/-- What trimming leaves stands somewhere in the text. -/
theorem trimChars_infix (cs : List Char) : trimChars cs <:+: cs := by
  -- Trimming drops something in front and something at the end.
  rw [trimChars_eq]
  exact (List.rdropWhile_prefix ..).isInfix.trans (List.dropWhile_suffix _).isInfix

/-- What is put in front keeps the blanks between it and a text. -/
theorem trimChars_append {c : Char} (visible : ¬ isBlank c = true) (front : List Char)
    {cs : List Char} (some : trimChars cs ≠ []) : ∃ before : List Char,
      before.all isBlank = true ∧
        trimChars (c :: front ++ cs) = c :: front ++ before ++ trimChars cs := by
  -- The blanks that are kept are those in front of the text, which is not blank altogether.
  refine ⟨cs.takeWhile isBlank, List.all_takeWhile, ?_⟩
  have parts := List.takeWhile_append_dropWhile (p := isBlank) (l := cs)
  cases split : cs.dropWhile isBlank with
  | nil => exact absurd (by rw [trimChars_eq, split]; rfl) some
  | cons d rest =>
    -- The first character that is not blank stays, and so does all in front of it.
    have stays : ¬ isBlank d = true := by
      have := List.head?_dropWhile_not isBlank cs
      simpa [split] using this
    have ending : trimChars cs = d :: rest.rdropWhile isBlank := by
      rw [trimChars_eq, split]
      exact rdropWhile_append stays [] rest
    rw [split] at parts
    calc trimChars (c :: front ++ cs)
        = trimChars (c :: (front ++ cs.takeWhile isBlank ++ d :: rest)) := by
          rw [List.append_assoc, parts]
          rfl
      _ = c :: (front ++ cs.takeWhile isBlank ++ d :: rest.rdropWhile isBlank) := by
          rw [trimChars_cons_of_not visible, rdropWhile_append stays]
      _ = c :: front ++ cs.takeWhile isBlank ++ trimChars cs := by
          rw [ending]
          simp

end CsiOperator.Text
