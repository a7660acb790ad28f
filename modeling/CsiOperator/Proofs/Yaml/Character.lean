import CsiOperator.Yaml.Printer

/-! Characters that are written as they are, and what begins the line after them. -/

namespace CsiOperator.Yaml

open Style (isPrintable isAnyBreak endsHere)

/-- What may be written may stand in a text. -/
theorem isAllowed_of_isPrintable {c : Char} (printable : isPrintable c = true) :
    isAllowed c = true := by
  -- Both are ranges of code points, of which one lies in the other.
  simp only [isPrintable, isAllowed, Bool.or_eq_true, Bool.and_eq_true, beq_iff_eq,
    decide_eq_true_eq] at printable ⊢
  omega

/-- A space is the only blank that is written as it is. -/
theorem isBlank_iff_of_isPrintable {c : Char} (printable : isPrintable c = true) :
    isBlank c = true ↔ c = ' ' := by
  -- The tabulator is the other blank, and it is always escaped.
  have noTab : c ≠ '\t' := by
    rintro rfl
    cases printable
  simp [isBlank, noTab]

/-- The line breaks that may be written as they are stand for themselves. -/
theorem isAnyBreak_of_isPrintable {c : Char} (printable : isPrintable c = true) :
    isAnyBreak c = isBreak c := by
  -- A return and a next-line mark are breaks too, but are always escaped.
  have noReturn : c ≠ '\r' := by
    rintro rfl
    cases printable
  have noNextLine : c ≠ '\u0085' := by
    rintro rfl
    cases printable
  simp [isAnyBreak, beq_eq_false_iff_ne.mpr noReturn, beq_eq_false_iff_ne.mpr noNextLine]

/-- A letter is none of the marks that are not letters. -/
theorem ne_of_isAlpha {c d : Char} (letter : c.isAlpha = true) (mark : d.isAlpha = false) :
    c ≠ d := by
  -- One character cannot be a letter and not be one.
  rintro rfl
  rw [mark] at letter
  cases letter

/-- A letter may be written. -/
theorem isPrintable_of_isAlpha {c : Char} (letter : c.isAlpha = true) : isPrintable c = true := by
  -- Letters lie in two ranges of code points, both of them printable.
  have range : (65 ≤ c.toNat ∧ c.toNat ≤ 90) ∨ (97 ≤ c.toNat ∧ c.toNat ≤ 122) := by
    rcases Bool.or_eq_true_iff.mp letter with upper | lower
    · obtain ⟨from65, to90⟩ := of_decide_eq_true upper
      exact .inl ⟨UInt32.le_iff_toNat_le.mp from65, UInt32.le_iff_toNat_le.mp to90⟩
    · obtain ⟨from97, to122⟩ := Bool.and_eq_true_iff.mp lower
      exact .inr ⟨UInt32.le_iff_toNat_le.mp (of_decide_eq_true from97),
        UInt32.le_iff_toNat_le.mp (of_decide_eq_true to122)⟩
  simp only [isPrintable, Bool.or_eq_true, Bool.and_eq_true, beq_iff_eq, decide_eq_true_eq]
  omega

/-- A letter is not passed over. -/
theorem isGap_of_isAlpha {c : Char} (letter : c.isAlpha = true) : isGap c = false := by
  -- The gaps are marks, and a letter is no mark.
  have other (d : Char) (mark : d.isAlpha = false) : (c == d) = false :=
    beq_eq_false_iff_ne.mpr (ne_of_isAlpha letter mark)
  simp [isGap, isBlank, isBreak, other]

/-- Breaks that are all written alike stay as they are. -/
theorem normalizeBreaks_of_isPrintable {cs : List Char} (printable : ∀ c ∈ cs, isPrintable c = true) :
    normalizeBreaks cs = cs := by
  -- By induction on the text, which has no break but the line feed.
  induction cs with
  | nil => rfl
  | cons c rest ih =>
    obtain ⟨first, others⟩ := List.forall_mem_cons.mp printable
    -- Only returns and next-line marks are rewritten, and neither may stand in the text.
    have noReturn : c ≠ '\r' := by
      rintro rfl
      cases first
    have noNextLine : c ≠ '\u0085' := by
      rintro rfl
      cases first
    rw [normalizeBreaks, ih others]
    · simp [noReturn, noNextLine]
    · rintro _ rfl
      exact absurd rfl noReturn

/-- A word that goes on in what is written goes on in front of anything else as well. -/
theorem endsWord_append {cs : List Char} (here : endsHere cs = false) (rest : List Char) :
    endsWord (cs ++ rest) = false := by
  -- The character that ends a word, or the lack of one, is told by what is there already.
  cases cs with
  | nil => cases here
  | cons c cs =>
    simp only [endsHere, isAnyBreak, Bool.or_eq_false_iff] at here
    simp [endsWord, isGap, here]

/-- What follows is not passed over on the way to the next token. -/
def StartsToken (next : List Char) : Prop :=
  ∀ c ∈ next.head?, isGap c = false ∧ c ≠ '#' ∧ c ≠ byteOrderMark

/-- The start of a line of a list or a map: at most two blanks before a token, or before nothing at
all. -/
structure LineStart (column : Nat) (next : List Char) : Prop where
  /-- There are at most two blanks. -/
  shallow : column ≤ 2
  /-- What follows them is not passed over. -/
  visible : StartsToken next

/-- A line with blanks before it. -/
def indented (column : Nat) (next : List Char) : List Char :=
  List.replicate column ' ' ++ next

@[simp] theorem indented_zero (next : List Char) : indented 0 next = next :=
  rfl

@[simp] theorem indented_succ (column : Nat) (next : List Char) :
    indented (column + 1) next = ' ' :: indented column next :=
  rfl

namespace Place

/-- The place after one character is the next one. -/
theorem skip_succ (p : Place) (n : Nat) : p.skip (n + 1) = p.next.skip n := by
  simp [skip, next, Nat.add_assoc, Nat.add_comm 1]

@[simp] theorem skip_zero (p : Place) : p.skip 0 = p :=
  rfl

end Place

end CsiOperator.Yaml
