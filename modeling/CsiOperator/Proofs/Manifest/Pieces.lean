import CsiOperator.Manifest.Documents
import CsiOperator.Proofs.Text.Trimmed

/-! The pieces of a text are what stands between its separators. -/

namespace CsiOperator.Manifest

/-- The hyphens with which a marker line begins. -/
def hyphens : List Char := ['-', '-', '-']

/-- A mark is found exactly where the text begins with it. -/
theorem afterMark_isSome_iff (mark cs : List Char) :
    (afterMark mark cs).isSome = true ↔ mark <+: cs := by
  -- By induction on the mark, whose characters are taken off one at a time.
  induction mark generalizing cs with
  | nil => simp [afterMark]
  | cons m ms ih =>
    cases cs with
    | nil => simp [afterMark]
    | cons c rest =>
      by_cases same : m = c
      · simp [afterMark, same, ih]
      · simp [afterMark, same]

/-- There is always a first piece. -/
theorem pieces_ne_nil (skip : Nat) (cs : List Char) : pieces skip cs ≠ [] := by
  fun_induction pieces with grind

/-- A separator ends a piece. -/
theorem pieces_separator (rest : List Char) :
    pieces 0 (separator ++ rest) = [] :: pieces 0 rest := by
  simp [separator, pieces, afterMark]

/-- A character that begins no separator belongs to the first piece. -/
theorem pieces_cons {c : Char} {rest : List Char} (inside : ¬ separator <+: c :: rest) :
    pieces 0 (c :: rest) = (pieces 0 rest).modifyHead (c :: ·) := by
  -- The separator is asked for at the front only, so the character goes on to the first piece.
  obtain ⟨piece, more, split⟩ := List.exists_cons_of_ne_nil (pieces_ne_nil 0 rest)
  rw [← afterMark_isSome_iff] at inside
  rw [pieces, if_neg inside, split]
  rfl

/-- With separators between them the pieces give the text again. -/
theorem intercalate_pieces (cs : List Char) : separator.intercalate (pieces 0 cs) = cs := by
  -- Characters of a separator that are still to be passed over belong to no piece.
  have general : ∀ skip, separator.intercalate (pieces skip cs) = cs.drop skip := by
    intro skip
    fun_induction pieces skip cs with
    | case1 skip => simp
    | case2 skip c rest ih => simpa using ih
    | case3 c rest found ih =>
      -- The separator that is cut out here is the one that goes between the pieces.
      obtain ⟨later, whole⟩ := (afterMark_isSome_iff ..).mp found
      obtain ⟨rfl, rfl⟩ : '\n' = c ∧ hyphens ++ later = rest := List.cons.inj whole
      rw [List.intercalate_cons_of_ne_nil (pieces_ne_nil _ _), ih]
      rfl
    | case4 c rest found none => exact absurd none (pieces_ne_nil _ _)
    | case5 c rest found piece more split ih =>
      rw [split] at ih
      simpa using ih
  simpa using general 0

/-- What is joined stands in the whole. -/
theorem infix_intercalate {mark piece : List Char} {ps : List (List Char)} (member : piece ∈ ps) :
    piece <:+: mark.intercalate ps := by
  -- By induction on the pieces, with the mark between the first two of them.
  induction ps with
  | nil => simp at member
  | cons first rest ih =>
    cases rest with
    | nil => simp [List.mem_singleton.mp member]
    | cons second more =>
      rw [List.intercalate_cons_cons]
      rcases List.mem_cons.mp member with same | later
      · subst same
        exact ⟨[], mark ++ mark.intercalate (second :: more), by simp⟩
      · exact List.infix_append_of_infix_right (ih later)

/-- Every piece stands somewhere in the text. -/
theorem infix_of_mem_pieces {cs piece : List Char} (member : piece ∈ pieces 0 cs) :
    piece <:+: cs := by
  -- The pieces make up the text again, and each of them stands in what they make up.
  have inside : piece <:+: separator.intercalate (pieces 0 cs) := infix_intercalate member
  rwa [intercalate_pieces] at inside

/-- What is joined begins as the first part does. -/
theorem prefix_intercalate {mark first : List Char} (rest : List (List Char)) :
    first <+: mark.intercalate (first :: rest) := by
  -- Whether there is a second part decides if a mark follows the first.
  cases rest with
  | nil => simp
  | cons next rest =>
    rw [List.intercalate_cons_cons, List.append_assoc]
    exact List.prefix_append ..

/-- A text begins with its first piece. -/
theorem prefix_of_pieces {cs piece : List Char} {more : List (List Char)}
    (split : pieces 0 cs = piece :: more) : piece <+: cs := by
  -- The pieces make up the text again, and that begins with the first of them.
  rw [← intercalate_pieces cs, split]
  exact prefix_intercalate more

/-- No piece holds a separator. -/
theorem pieces_free (cs : List Char) : ∀ piece ∈ pieces 0 cs, ¬ separator <:+: piece := by
  -- The function skips the rest of a separator, so the induction is over any number to skip.
  have general : ∀ skip, ∀ piece ∈ pieces skip cs, ¬ separator <:+: piece := by
    intro skip
    fun_induction pieces skip cs with
    | case1 skip => simp [separator]
    | case2 skip c rest ih => exact ih
    | case3 c rest found ih =>
      intro piece member
      rcases List.mem_cons.mp member with same | later
      · simp [same, separator]
      · exact ih piece later
    | case4 c rest found none => exact absurd none (pieces_ne_nil _ _)
    | case5 c rest found piece more split ih =>
      rw [split] at ih
      intro other member
      rcases List.mem_cons.mp member with same | later
      · subst same
        intro inside
        -- A separator at the front of the piece would be one at the front of the text.
        rcases List.infix_cons_iff.mp inside with front | behind
        · have begins : separator <+: c :: rest :=
            front.trans (List.prefix_cons_iff.mpr (.inr ⟨piece, rfl, prefix_of_pieces split⟩))
          exact found ((afterMark_isSome_iff ..).mpr begins)
        · exact ih piece List.mem_cons_self behind
      · exact ih other (List.mem_cons_of_mem _ later)
  exact general 0

/-- A text without a separator is one piece. -/
theorem pieces_of_free {cs : List Char} (free : ¬ separator <:+: cs) : pieces 0 cs = [cs] := by
  -- By induction on the text, at no place of which a separator begins.
  induction cs with
  | nil => rfl
  | cons c rest ih =>
    rw [List.infix_cons_iff, not_or] at free
    rw [pieces_cons free.1, ih free.2]
    rfl

/-- A separator behind a text cannot begin within it. -/
theorem prefix_of_prefix_append {c : Char} {cs rest : List Char}
    (front : separator <+: c :: cs ++ separator ++ rest) : separator <+: c :: cs := by
  -- Only its first character is a line break, so two separators cannot overlap.
  match cs with
  | [] | [_] | [_, _] => simp [separator] at front
  | _ :: _ :: _ :: _ => simpa [separator] using front

/-- A text without a separator is the first piece in front of a separator. -/
theorem pieces_append {cs : List Char} (free : ¬ separator <:+: cs) (rest : List Char) :
    pieces 0 (cs ++ separator ++ rest) = cs :: pieces 0 rest := by
  -- By induction on the text in front, at no place of which a separator begins.
  induction cs with
  | nil => exact pieces_separator rest
  | cons c cs ih =>
    rw [List.infix_cons_iff, not_or] at free
    have inside : ¬ separator <+: c :: (cs ++ separator ++ rest) :=
      fun front => free.1 (prefix_of_prefix_append front)
    rw [List.cons_append, List.cons_append, pieces_cons inside, ih free.2]
    rfl

/-- Texts without a separator are the pieces of what they are joined to. -/
theorem pieces_intercalate {ps : List (List Char)} (some : ps ≠ [])
    (free : ∀ piece ∈ ps, ¬ separator <:+: piece) :
    pieces 0 (separator.intercalate ps) = ps := by
  -- By induction on the pieces, each of which is the first one in front of a separator.
  induction ps with
  | nil => exact absurd rfl some
  | cons first rest ih =>
    have ⟨alone, later⟩ := List.forall_mem_cons.mp free
    cases rest with
    | nil => rw [List.intercalate_singleton, pieces_of_free alone]
    | cons second more =>
      rw [List.intercalate_cons_cons, pieces_append alone, ih (by simp) later]

/-- Characters other than line breaks belong to the first piece. -/
theorem pieces_append_of_not_mem {front : List Char} (whole : '\n' ∉ front) (rest : List Char) :
    pieces 0 (front ++ rest) = (pieces 0 rest).modifyHead (front ++ ·) := by
  -- By induction on the characters, none of which begins a separator.
  induction front with
  | nil => exact (congrFun List.modifyHead_id (pieces 0 rest)).symm
  | cons c front ih =>
    rw [List.mem_cons, not_or] at whole
    have inside : ¬ separator <+: c :: (front ++ rest) := by
      simpa [separator] using fun same => absurd same whole.1
    rw [List.cons_append, pieces_cons inside, ih whole.2, List.modifyHead_modifyHead]
    rfl

end CsiOperator.Manifest
