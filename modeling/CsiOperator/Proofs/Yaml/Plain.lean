import CsiOperator.Proofs.Yaml.Character

/-! Scalars without quotes are read as they were written. -/

namespace CsiOperator.Yaml.Plain

open Style (isPrintable isAnyBreak endsHere holdsIndicator startsIndicator)

/-- A scalar that has ended with its line stays as it is up to the next line of a collection. -/
theorem scan_indented {column : Nat} {next : List Char} (start : LineStart column next)
    {indent : Int} (deep : 2 ≤ indent) {gap : Gap} (broken : gap.broken = true) (acc : List Char)
    {p : Place} {margin : Nat} (here : p.column = margin) (shallow : margin + column ≤ 2) :
    scan false indent true gap acc p (indented column next) =
      some ⟨acc.reverse, true, ⟨p.skip column, next⟩⟩ := by
  -- Induction on the blanks before the line: a gap that has been broken takes no more blanks.
  induction column generalizing p margin with
  | zero =>
    cases next with
    | nil => simp [scan, broken]
    | cons c rest =>
      obtain ⟨noGap, -, -⟩ := start.visible c rfl
      simp only [isGap, Bool.or_eq_false_iff] at noGap
      -- What stands to the left of the margin ends the scalar.
      have left : (p.column : Int) ≤ indent := by omega
      simp [scan, noGap, broken, left]
  | succ column ih =>
    have same : gap.blank ' ' = gap := by simp [Gap.blank, broken]
    have deeper : p.next.column = margin + 1 := by simp [Place.next, here]
    have later := ih ⟨by omega, start.visible⟩ deeper (by omega)
    rw [Place.skip_succ, indented_succ, scan, ← later, same]
    simp [isBlank]

/-- A character of a plain scalar is not taken for an indicator. -/
theorem endsBefore_append {c : Char} {cs : List Char} {afterGap : Bool}
    (noIndicator : holdsIndicator afterGap (c :: cs) = false) (rest : List Char) :
    endsBefore false c (cs ++ rest) = false := by
  -- Outside of flow only a colon can end a scalar, and only before a gap.
  simp only [holdsIndicator, Bool.or_eq_false_iff, Bool.and_eq_false_iff] at noIndicator
  -- A colon is an indicator only where a word ends behind it.
  obtain ⟨⟨other | here, -⟩, -⟩ := noIndicator
  · simp [endsBefore, other]
  · simp [endsBefore, endsWord_append here]

/-- Characters of one line are read as they are, after blanks that have not ended yet. -/
theorem scan_chars {cs : List Char} {column : Nat} {next : List Char}
    (start : LineStart column next) {indent : Int} (deep : 2 ≤ indent)
    (printable : ∀ c ∈ cs, isPrintable c = true ∧ isBreak c = false)
    {blanks : List Char} (spaces : ∀ c ∈ blanks, c = ' ')
    (noIndicator : holdsIndicator (!blanks.isEmpty) cs = false)
    (last : (blanks.reverse ++ cs).getLast? ≠ some ' ') (acc : List Char) {p : Place}
    (right : indent < p.column) :
    scan false indent (!blanks.isEmpty) ⟨blanks, false, none, []⟩ acc p
        (cs ++ '\n' :: indented column next) =
      some ⟨acc.reverse ++ blanks.reverse ++ cs, true,
        ⟨(p.skip cs.length).newline.skip column, next⟩⟩ := by
  -- Induction on the text, with the blanks that have been read but not yet kept as part of the
  -- claim.
  induction cs generalizing blanks acc p with
  | nil =>
    -- Blanks at the end would be lost.
    have none : blanks = [] := by
      cases blanks with
      | nil => rfl
      | cons c rest => simp [spaces c] at last
    subst none
    have broken : (Gap.none.newline '\n').broken = true := rfl
    have atStart : p.newline.column = 0 := rfl
    have line := scan_indented start deep broken acc atStart (by simpa using start.shallow)
    simpa [scan, isBlank, isBreak, Gap.none] using line
  | cons c cs ih =>
    obtain ⟨⟨visible, noBreak⟩, others⟩ := List.forall_mem_cons.mp printable
    have right' : indent < p.next.column := by
      simp only [Place.next]
      omega
    have later : holdsIndicator (endsHere [c]) cs = false := by
      simp only [holdsIndicator, Bool.or_eq_false_iff] at noIndicator
      exact noIndicator.2
    rw [List.cons_append, scan]
    by_cases space : c = ' '
    · -- A space waits for what follows it.
      subst space
      have spaces' : ∀ c ∈ ' ' :: blanks, c = ' ' := by simpa using spaces
      have waits := ih others spaces' later (by simpa using last) acc right'
      simpa [isBlank, Gap.blank, Place.skip_succ] using waits
    · -- Any other character ends the blanks before it.
      have noBlank : isBlank c = false := by
        rw [Bool.eq_false_iff]
        exact mt (isBlank_iff_of_isPrintable visible).mp space
      have noGap : endsHere [c] = false := by
        simp [endsHere, noBlank, isAnyBreak_of_isPrintable visible, noBreak]
      have noMark : (!blanks.isEmpty && c == '#') = false := by
        simp only [holdsIndicator, Bool.or_eq_false_iff] at noIndicator
        rw [Bool.and_comm]
        exact noIndicator.1.2
      have inside : ¬ (p.column : Int) ≤ indent := by omega
      have below : (p.column == 0) = false := beq_eq_false_iff_ne.mpr (by omega)
      rw [noGap] at later
      have none : ∀ c ∈ ([] : List Char), c = ' ' := by simp
      have last' : ([].reverse ++ cs).getLast? ≠ some ' ' := by
        intro ends
        cases cs with
        | nil => simp at ends
        | cons d cs => exact last (by simpa using ends)
      have goesOn := ih others none later last'
        (c :: ((Gap.mk blanks false .none []).text.reverse ++ acc)) right'
      rw [endsBefore_append noIndicator]
      simp only [noBlank, noBreak, Bool.false_eq_true, if_false, inside, decide_false, below,
        Bool.false_and, Bool.and_false, Bool.false_or, noMark, isStrayColon]
      simpa [Gap.text, Gap.none, Place.skip_succ] using goesOn

/-- A word of letters before a colon is read as it is. -/
theorem scan_letters {cs : List Char} (letters : ∀ c ∈ cs, c.isAlpha = true) {rest : List Char}
    (ends : endsWord rest = true) (indent : Int) (acc : List Char) (p : Place) :
    scan false indent false Gap.none acc p (cs ++ ':' :: rest) =
      some ⟨acc.reverse ++ cs, false, ⟨p.skip cs.length, ':' :: rest⟩⟩ := by
  -- By induction on the letters, up to the colon.
  induction cs generalizing acc p with
  | nil => simp [scan, isBlank, isBreak, isStrayColon, endsBefore, ends, Gap.none]
  | cons c cs ih =>
    obtain ⟨letter, others⟩ := List.forall_mem_cons.mp letters
    -- A letter is neither a gap nor a colon, so it is kept.
    have noGap := isGap_of_isAlpha letter
    have noColon : (c == ':') = false := beq_eq_false_iff_ne.mpr (ne_of_isAlpha letter (by decide))
    simp only [isGap, Bool.or_eq_false_iff] at noGap
    rw [List.cons_append, scan]
    simp [noGap, isStrayColon, endsBefore, noColon, Gap.none, Gap.text, Place.skip_succ]
    simpa [Gap.none] using ih others (c :: acc) p.next

/-- A letter is no indicator. -/
theorem startsIndicator_of_isAlpha {c : Char} (letter : c.isAlpha = true) (cs : List Char) :
    startsIndicator (c :: cs) = false := by
  -- Every indicator is a mark, and a letter is none.
  have other (d : Char) (mark : d.isAlpha = false) : (c == d) = false :=
    beq_eq_false_iff_ne.mpr (ne_of_isAlpha letter mark)
  simp [startsIndicator, other, ne_of_isAlpha letter]

/-- A visible character that is no indicator begins a plain scalar, and no item of a list. -/
theorem startsAt_append {c : Char} {cs : List Char} (visible : isGap c = false)
    (noIndicator : startsIndicator (c :: cs) = false) (rest : List Char) :
    startsAt false (c :: (cs ++ rest)) = true ∧ (c == '-' && endsWord (cs ++ rest)) = false := by
  -- A first character is checked as a mark, and then as the beginning of a word.
  simp only [startsIndicator, Bool.or_eq_false_iff] at noIndicator
  obtain ⟨⟨noMark, noWord⟩, -⟩ := noIndicator
  -- The three marks that also begin words are allowed only where the word goes on.
  have goesOn (word : c = '?' ∨ c = ':' ∨ c = '-') : endsHere cs = false := by
    rcases word with rfl | rfl | rfl <;> simpa using noWord
  rw [startsAt, visible]
  by_cases hyphen : c = '-'
  · have here := goesOn (.inr (.inr hyphen))
    rw [endsWord_append here rest]
    cases cs with
    | nil => cases here
    | cons d cs =>
      simp only [endsHere, Bool.or_eq_false_iff] at here
      simp [hyphen, here]
  · by_cases word : c = '?' ∨ c = ':'
    · have here := goesOn (word.elim .inl fun same => .inr (.inl same))
      simp [hyphen, word, endsWord_append here rest]
    · simp only [List.contains_cons, Bool.or_eq_false_iff, beq_eq_false_iff_ne] at noMark
      simp [hyphen, not_or.mp word, isBracket, noMark]

/-- The first character holds no indicator either if it is none. -/
theorem holdsIndicator_cons {c : Char} {cs : List Char} (visible : endsHere [c] = false)
    (noStart : startsIndicator (c :: cs) = false) (noIndicator : holdsIndicator false cs = false) :
    holdsIndicator false (c :: cs) = false := by
  -- What is ruled out at the start is all that the scan looks for with one more character.
  simp only [startsIndicator, Bool.or_eq_false_iff] at noStart
  obtain ⟨⟨-, noWord⟩, -⟩ := noStart
  -- A colon could only be one at the start, where it has been ruled out already.
  have noColon : (c == ':' && endsHere cs) = false := by
    by_cases colon : c = ':'
    · subst colon
      simpa using noWord
    · simp [colon]
  simp [holdsIndicator, noColon, visible, noIndicator]

end CsiOperator.Yaml.Plain
