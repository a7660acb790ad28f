import CsiOperator.Manifest.Documents
import CsiOperator.Proofs.Text.Trimmed

/-! The content of a text is in its lines, whatever blanks stand around them. -/

namespace CsiOperator.Manifest

/-- The lines of a text. -/
def lines (text : List Char) : List (List Char) :=
  Text.splitAt '\n' text

/-- The lines with content, without the blanks around them. -/
def contentOf (ls : List (List Char)) : List (List Char) :=
  (ls.filter isContent).map Text.trimChars

/-- The content of a text. -/
def content (text : List Char) : List (List Char) :=
  contentOf (lines text)

variable {c : Char}

/-- A line break ends the first line. -/
theorem lines_append {line : List Char} (whole : '\n' ∉ line) (rest : List Char) :
    lines (line ++ '\n' :: rest) = line :: lines rest := by
  -- Lines are the pieces between breaks, for which the library has this law.
  simp only [lines, Text.splitAt_eq_splitOn]
  exact List.splitOn_append_cons_self_of_not_mem whole rest

/-- A line break in front of a text adds an empty line. -/
theorem lines_break (text : List Char) : lines ('\n' :: text) = [] :: lines text :=
  lines_append List.not_mem_nil text

/-- A text without a line break is one line. -/
theorem lines_of_not_mem {line : List Char} (whole : '\n' ∉ line) : lines line = [line] := by
  -- Lines are the pieces between breaks, and there is no break.
  rw [lines, Text.splitAt_eq_splitOn]
  exact List.splitOn_eq_singleton whole

/-- Another character belongs to the first line. -/
theorem lines_cons (other : c ≠ '\n') (text : List Char) :
    lines (c :: text) = (lines text).modifyHead (c :: ·) := by
  -- Lines are the pieces between breaks, and this character is none.
  simp only [lines, Text.splitAt_eq_splitOn, List.splitOn_cons_eq_if_modifyHead]
  rw [if_neg (by simpa using other)]

/-- There is always a first line. -/
theorem lines_ne_nil (text : List Char) : lines text ≠ [] := by
  -- Lines are the pieces between breaks, of which there is always one.
  rw [lines, Text.splitAt_eq_splitOn]
  exact List.splitOn_ne_nil _ _

/-- A character at the end of a text stands at the end of its last line, or ends that. -/
theorem lines_concat (text : List Char) : ∃ before last, lines text = before ++ [last] ∧
    lines (text ++ [c]) = if c = '\n' then before ++ [last, []] else before ++ [last ++ [c]] := by
  -- Induction on the text in front of the character: only its last line sees the character.
  induction text with
  | nil =>
    refine ⟨[], [], rfl, ?_⟩
    split
    · next same => rw [same]; rfl
    · next other => rw [List.nil_append, lines_cons other]; rfl
  | cons d text ih =>
    obtain ⟨before, last, split, grown⟩ := ih
    by_cases same : d = '\n'
    · -- A first line that is empty changes nothing behind it.
      subst same
      refine ⟨[] :: before, last, ?_, ?_⟩
      · rw [lines_break, split]
        rfl
      · rw [List.cons_append, lines_break, grown]
        split <;> rfl
    · -- The first line may be the last one too.
      rw [List.cons_append, lines_cons same, lines_cons same, split, grown]
      cases before with
      | nil => exact ⟨[], d :: last, rfl, by split <;> rfl⟩
      | cons first before => exact ⟨(d :: first) :: before, last, rfl, by split <;> rfl⟩

/-- A blank in front of a line does not make it one with content, nor one without. -/
theorem isContent_cons (blank : Text.isBlank c = true) (line : List Char) :
    isContent (c :: line) = isContent line := by
  rw [isContent, isContent, Text.trimChars_cons blank]

/-- A blank at the end of a line does not either. -/
theorem isContent_concat (blank : Text.isBlank c = true) (line : List Char) :
    isContent (line ++ [c]) = isContent line := by
  rw [isContent, isContent, Text.trimChars_concat blank]

/-- A blank in front of a text leaves its content. -/
theorem content_cons (blank : Text.isBlank c = true) (text : List Char) :
    content (c :: text) = content text := by
  -- A blank may be a break, which ends the first line, or stand in that line.
  by_cases same : c = '\n'
  · -- It adds an empty line.
    subst same
    rw [content, lines_break]
    rfl
  · -- It stands in the first line, where trimming takes it away.
    obtain ⟨first, rest, split⟩ := List.exists_cons_of_ne_nil (lines_ne_nil text)
    simp only [content, contentOf, lines_cons same, split, List.modifyHead_cons,
      List.filter_cons, isContent_cons blank]
    split <;> simp [Text.trimChars_cons blank]

/-- A blank at the end of a text leaves its content. -/
theorem content_concat (blank : Text.isBlank c = true) (text : List Char) :
    content (text ++ [c]) = content text := by
  -- A blank may be a break, which opens a last line, or stand at the end of that line.
  obtain ⟨before, last, split, grown⟩ := lines_concat (c := c) text
  rw [content, content, grown, split]
  split
  · -- It adds an empty line.
    simp [contentOf, show isContent [] = false from rfl, List.filter_cons]
  · simp only [contentOf, List.filter_append, List.filter_cons, isContent_concat blank]
    split <;> simp [Text.trimChars_concat blank]

/-- Blanks at the end of a text leave its content. -/
theorem content_append {after : List Char} (blank : after.all Text.isBlank = true)
    (text : List Char) : content (text ++ after) = content text := by
  -- From the right end, one blank after another.
  induction after using List.reverseRecOn with
  | nil => rw [List.append_nil]
  | append_singleton after c ih =>
    rw [List.all_append, Bool.and_eq_true] at blank
    rw [← List.append_assoc, content_concat (by simpa using blank.2), ih blank.1]

/-- Taking blanks off the end of a text leaves its content. -/
theorem content_rdropWhile (text : List Char) :
    content (text.rdropWhile Text.isBlank) = content text := by
  -- What is taken off is all blank, and blanks at an end have no content.
  have ending : (text.rtakeWhile Text.isBlank).all Text.isBlank = true :=
    List.all_eq_true.mpr fun c member => List.mem_rtakeWhile_imp member
  rw [← content_append ending, List.rdropWhile_append_rtakeWhile]

/-- Trimming a text leaves its content. -/
theorem content_trimChars (text : List Char) : content (Text.trimChars text) = content text := by
  -- The right end is settled by the lemma above.
  rw [Text.trimChars_eq, content_rdropWhile]
  -- From the left end, one blank after another, up to the first other character.
  induction text with
  | nil => rfl
  | cons c rest ih =>
    by_cases blank : Text.isBlank c = true
    · rw [List.dropWhile_cons_of_pos blank, ih, content_cons blank]
    · rw [List.dropWhile_cons_of_neg blank]

/-- A text has content when one of its lines has. -/
theorem hasContent_iff (text : List Char) : hasContent text = true ↔ content text ≠ [] := by
  simp [hasContent, content, contentOf, lines]

/-- Without content all lines are blank or comments. -/
theorem content_eq_nil_iff (text : List Char) :
    content text = [] ↔ ∀ line ∈ lines text, isContent line = false := by
  simp [content, contentOf]

/-- A line of a text has no line break. -/
theorem not_mem_of_mem_lines {text line : List Char} (member : line ∈ lines text) :
    '\n' ∉ line := by
  -- A break is always the end of a line, and any other character goes to the front of the first
  -- one.
  induction text generalizing line with
  | nil => simp [show lines [] = [[]] from rfl] at member; simp [member]
  | cons c text ih =>
    by_cases same : c = '\n'
    · subst same
      rw [lines_break] at member
      rcases List.mem_cons.mp member with same | later
      · simp [same]
      · exact ih later
    · obtain ⟨first, rest, split⟩ := List.exists_cons_of_ne_nil (lines_ne_nil text)
      rw [lines_cons same, split, List.modifyHead_cons] at member
      rw [split] at ih
      rcases List.mem_cons.mp member with front | later
      · rw [front, List.mem_cons, not_or]
        exact ⟨fun again => same again.symm, ih List.mem_cons_self⟩
      · exact ih (List.mem_cons_of_mem _ later)

/-- A text is its lines with breaks between them. -/
theorem intercalate_lines (text : List Char) : ['\n'].intercalate (lines text) = text := by
  -- Lines are the pieces between breaks, which the library puts together again.
  rw [lines, Text.splitAt_eq_splitOn]
  exact List.intercalate_splitOn '\n'

end CsiOperator.Manifest
