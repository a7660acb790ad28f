import CsiOperator.Proofs.Text.Numeral
import CsiOperator.Proofs.Yaml.Character

/-! Scalars between quotes are read as they were written. -/

namespace CsiOperator.Yaml.Quoted

open Style (isPrintable isAnyBreak isSpace holdsPair)

@[simp] theorem text_none : Gap.none.text = [] :=
  rfl

section Single

/-- What has been passed over in a scalar between single quotes: spaces, or breaks that are not
folded. -/
inductive Pending : (afterBreak : Bool) → Gap → Prop where
  /-- Spaces after another character. -/
  | spaces {blanks : List Char} (all : ∀ c ∈ blanks, c = ' ') : Pending false ⟨blanks, false, none, []⟩
  /-- Breaks that stand for themselves. -/
  | breaks {first : Char} (unfolded : first ≠ '\n') (isBreak' : isBreak first = true)
      {more : List Char} (all : ∀ c ∈ more, isBreak c = true) : Pending true ⟨[], true, some first, more⟩

/-- Nothing has been passed over. -/
theorem Pending.none : Pending false Gap.none :=
  .spaces (by simp)

/-- Breaks that are not folded stand for themselves. -/
theorem text_breaks {first : Char} (unfolded : first ≠ '\n') (more : List Char) :
    (Gap.mk [] true (some first) more).text = first :: more.reverse := by
  -- Only a line feed as the first break would be folded into a space.
  rw [Gap.text]
  split
  · split
    · rename_i same
      exact absurd (Option.some.inj same) unfolded
    · rfl
  · rename_i wrong
    exact absurd rfl wrong

/-- No pair is in the part of a text that is left. -/
theorem holdsPair_of_append {first second : Char → Bool} (front : List Char) {cs : List Char}
    (none : holdsPair first second (front ++ cs) = false) : holdsPair first second cs = false := by
  -- A pair in the rest would be a pair in the whole, so one character after another can be taken
  -- away.
  induction front with
  | nil => exact none
  | cons a front ih =>
    apply ih
    cases rest : front ++ cs with
    | nil => rfl
    | cons b more =>
      rw [List.cons_append, rest, holdsPair] at none
      exact (Bool.or_eq_false_iff.mp none).2

/-- A break is not folded where no space would be lost before it. -/
theorem Pending.newline {afterBreak : Bool} {gap : Gap} (pending : Pending afterBreak gap)
    {c : Char} (isBreak' : isBreak c = true) (unfolded : c ≠ '\n') {cs : List Char}
    (noPair : holdsPair isSpace isAnyBreak (gap.text ++ c :: cs) = false) :
    Pending true (gap.newline c) ∧ (gap.newline c).text = gap.text ++ [c] := by
  -- The text so far has either just passed a break, or has spaces that would be lost before this
  -- one.
  cases pending with
  | breaks unfolded' isFirst all =>
    refine ⟨.breaks unfolded' isFirst (List.forall_mem_cons.mpr ⟨isBreak', all⟩), ?_⟩
    rw [text_breaks unfolded']
    exact (text_breaks unfolded' _).trans (by simp)
  | @spaces blanks all =>
    -- Spaces before the break would form a pair with it, and so there are none.
    have none : blanks = [] := by
      cases blanks with
      | nil => rfl
      | cons d rest =>
        obtain rfl := all d List.mem_cons_self
        have lost : holdsPair isSpace isAnyBreak (rest.reverse ++ ' ' :: c :: cs) = false := by
          simpa [Gap.text] using noPair
        have pair := holdsPair_of_append rest.reverse lost
        simp [holdsPair, isSpace, isAnyBreak, isBreak'] at pair
    subst none
    exact ⟨.breaks unfolded isBreak' (by simp), text_breaks unfolded []⟩

/-- A space waits for what follows it, unless it stands after a break. -/
theorem Pending.blank {afterBreak : Bool} {gap : Gap} (pending : Pending afterBreak gap)
    {cs : List Char} (noPair : holdsPair isAnyBreak isSpace (gap.text ++ ' ' :: cs) = false) :
    Pending false (gap.blank ' ') ∧ (gap.blank ' ').text = gap.text ++ [' '] := by
  -- A space right after a break would count as indentation, and the text has no such pair.
  cases pending with
  | spaces all =>
    exact ⟨.spaces (List.forall_mem_cons.mpr ⟨rfl, all⟩), by simp [Gap.blank, Gap.text]⟩
  | @breaks first unfolded isFirst more all =>
    rw [text_breaks unfolded] at noPair
    -- The break passed over last is the one that the space would stand after.
    have last : ∃ front d, first :: more.reverse = front ++ [d] ∧ isBreak d = true := by
      cases more with
      | nil => exact ⟨[], first, rfl, isFirst⟩
      | cons d rest => exact ⟨first :: rest.reverse, d, by simp, all d List.mem_cons_self⟩
    obtain ⟨front, d, same, isLast⟩ := last
    have lost : holdsPair isAnyBreak isSpace (front ++ d :: ' ' :: cs) = false := by
      simpa [same] using noPair
    have pair := holdsPair_of_append front lost
    simp [holdsPair, isSpace, isAnyBreak, isLast] at pair

/-- A character other than a quote is read by its class. -/
theorem scanSingle_cons {c : Char} (noQuote : c ≠ '\'') (gap : Gap) (acc : List Char) (p : Place)
    (rest : List Char) :
    scanSingle gap acc p (c :: rest) =
      if isBlank c then scanSingle (gap.blank c) acc p.next rest
      else if isBreak c then scanSingle (gap.newline c) acc p.newline rest
      else if p.column == 0 && isBoundary (c :: rest) then none
      else scanSingle Gap.none (c :: (gap.text.reverse ++ acc)) p.next rest := by
  -- The scanner has clauses for one quote and for two, and this character is neither.
  rw [scanSingle]
  -- Only the clauses for quotes are in the way of the general one.
  · rintro _ rfl
    exact absurd rfl noQuote
  · exact noQuote

/-- A quote that is not doubled ends the scalar. -/
theorem scanSingle_quote {rest : List Char} (single : rest.head? ≠ some '\'') (gap : Gap)
    (acc : List Char) (p : Place) :
    scanSingle gap acc p ('\'' :: rest) = some ((gap.text.reverse ++ acc).reverse, ⟨p.next, rest⟩) := by
  -- The scanner asks for two quotes first, so the clause for one comes after that.
  rw [scanSingle]
  -- A second quote behind the first one would stand for a quote in the text.
  rintro rest rfl
  exact absurd rfl single

/-- The blanks before a line do not count. -/
theorem scanSingle_indentation {gap : Gap} (pending : Pending true gap) (acc : List Char) (p : Place)
    (rest : List Char) :
    scanSingle gap acc p (Printer.indentation ++ rest) = scanSingle gap acc (p.skip 4) rest := by
  -- Once the first break has been kept, blanks at the beginning of a line are dropped.
  cases pending with
  | breaks => rfl

/-- A character of a line is read as it is, and waits for what follows it if it is a space. -/
theorem scanSingle_char {c : Char} (visible : isPrintable c = true) (noBreak : isBreak c = false)
    {afterBreak : Bool} {gap : Gap} (pending : Pending afterBreak gap) {cs : List Char}
    (noIndent : holdsPair isAnyBreak isSpace (gap.text ++ c :: cs) = false) (acc : List Char)
    {p : Place} (inside : 0 < p.column) :
    ∃ gap' acc' p', Pending false gap' ∧ acc'.reverse ++ gap'.text = acc.reverse ++ gap.text ++ [c] ∧
      gap'.text ++ cs <:+ gap.text ++ c :: cs ∧ p'.line = p.line ∧ 0 < p'.column ∧
      ∀ rest, scanSingle gap acc p ((if c == '\'' then ['\'', '\''] else [c]) ++ rest) =
        scanSingle gap' acc' p' rest := by
  -- After a character other than a space, nothing is passed over any more.
  have other : Gap.none.text ++ cs <:+ gap.text ++ c :: cs :=
    (List.suffix_cons c cs).trans (List.suffix_append gap.text (c :: cs))
  by_cases quote : c = '\''
  -- A quote is written twice and read once.
  · subst quote
    refine ⟨Gap.none, '\'' :: (gap.text.reverse ++ acc), p.skip 2, .none, ?_, other, rfl, ?_,
      fun rest => ?_⟩
    · simp [Gap.none, Gap.text]
    · exact Nat.lt_of_lt_of_le inside (Nat.le_add_right _ _)
    · simp [scanSingle]
  · have noQuote : (c == '\'') = false := beq_eq_false_iff_ne.mpr quote
    have later : 0 < p.next.column := Nat.succ_pos _
    by_cases space : c = ' '
    -- A space is not put into the text before it is known what follows it.
    · subst space
      obtain ⟨pending', text⟩ := pending.blank noIndent
      refine ⟨gap.blank ' ', acc, p.next, pending', ?_, ?_, rfl, later, fun rest => ?_⟩
      · rw [text, List.append_assoc]
      · simp [text]
      · rw [if_neg (by simp), List.singleton_append, scanSingle_cons (by simp)]
        rfl
    -- A printable blank is a space, which has just been excluded.
    · have noBlank : isBlank c = false := by
        rw [Bool.eq_false_iff]
        exact mt (isBlank_iff_of_isPrintable visible).mp space
      have below : (p.column == 0) = false := beq_eq_false_iff_ne.mpr (by omega)
      refine ⟨Gap.none, c :: (gap.text.reverse ++ acc), p.next, .none, ?_, other, rfl, later,
        fun rest => ?_⟩
      · simp [Gap.none, Gap.text]
      · rw [noQuote]
        simp [scanSingle_cons quote, noBlank, noBreak, below]

/-- The text between single quotes is read as it was, after what has been passed over. -/
theorem scanSingle_printed {cs : List Char}
    (printable : ∀ c ∈ cs, isPrintable c = true ∧ c ≠ '\n') {afterBreak : Bool} {gap : Gap}
    (pending : Pending afterBreak gap)
    (noLoss : holdsPair isSpace isAnyBreak (gap.text ++ cs) = false)
    (noIndent : holdsPair isAnyBreak isSpace (gap.text ++ cs) = false) {rest : List Char}
    (ends : rest.head? ≠ some '\'') (acc : List Char) {p : Place}
    (inside : afterBreak = false → 0 < p.column) :
    ∃ q, p.line ≤ q.line ∧
      scanSingle gap acc p (Printer.single afterBreak cs ++ '\'' :: rest) =
        some (acc.reverse ++ gap.text ++ cs, ⟨q, rest⟩) := by
  -- The induction is on the text, and what has been passed over changes on the way.
  induction cs generalizing afterBreak gap acc p with
  | nil =>
    cases afterBreak with
    -- The closing quote stands on the line of the text, or at the beginning of a line of its own.
    | false =>
      refine ⟨p.next, Nat.le_refl _, ?_⟩
      rw [Printer.single, if_neg (by simp), List.nil_append, scanSingle_quote ends]
      simp
    | true =>
      refine ⟨(p.skip 4).next, Nat.le_refl _, ?_⟩
      rw [Printer.single, if_pos rfl, scanSingle_indentation pending, scanSingle_quote ends]
      simp
  | cons c cs ih =>
    obtain ⟨⟨visible, unfolded⟩, others⟩ := List.forall_mem_cons.mp printable
    by_cases isBreak' : isBreak c = true
    · -- The break is kept, and the next line is indented.
      -- Quotes and spaces are no breaks.
      have noQuote : c ≠ '\'' := by
        rintro rfl
        cases isBreak'
      have noBlank : isBlank c = false := by
        rw [Bool.eq_false_iff, ne_eq, isBlank_iff_of_isPrintable visible]
        rintro rfl
        cases isBreak'
      obtain ⟨pending', text⟩ := pending.newline isBreak' unfolded noLoss
      obtain ⟨q, after, reads⟩ := ih others pending' (by simpa [text] using noLoss)
        (by simpa [text] using noIndent) acc (p := p.newline) (by simp)
      refine ⟨q, by simp only [Place.newline] at after; omega, ?_⟩
      rw [Printer.single, if_pos isBreak', List.cons_append, scanSingle_cons noQuote]
      simp only [noBlank, isBreak', Bool.false_eq_true, if_false, if_true, reads, text]
      simp
    · -- The blanks before the line are passed over, and the character is read.
      have noBreak := Bool.eq_false_iff.mpr isBreak'
      -- From inside a line the character is read first, and the others after it.
      have fromLine (p : Place) (inside : 0 < p.column) : ∃ q, p.line ≤ q.line ∧
          scanSingle gap acc p ((if c == '\'' then ['\'', '\''] else [c]) ++
            (Printer.single false cs ++ '\'' :: rest)) =
          some (acc.reverse ++ gap.text ++ c :: cs, ⟨q, rest⟩) := by
        obtain ⟨gap', acc', p', pending', text, suffix, line, inside', reads⟩ :=
          scanSingle_char visible noBreak pending noIndent acc inside
        obtain ⟨front, split⟩ := suffix
        obtain ⟨q, after, later⟩ := ih others pending' (holdsPair_of_append front (by rwa [split]))
          (holdsPair_of_append front (by rwa [split])) acc' fun _ => inside'
        refine ⟨q, line ▸ after, ?_⟩
        rw [reads, later, text]
        simp
      rw [Printer.single, if_neg isBreak']
      cases afterBreak with
      | false => simpa using fromLine p (inside rfl)
      | true =>
        obtain ⟨q, after, reads⟩ := fromLine (p.skip 4) (Nat.succ_pos _)
        refine ⟨q, after, ?_⟩
        rw [if_pos rfl]
        simpa only [List.append_assoc, scanSingle_indentation pending] using reads

/-- What is written between single quotes may be written. -/
theorem isPrintable_single {cs : List Char} (printable : ∀ c ∈ cs, isPrintable c = true)
    (afterBreak : Bool) : ∀ d ∈ Printer.single afterBreak cs, isPrintable d = true := by
  -- The indentation of a line is made of spaces, which are printable.
  have blanks (afterBreak : Bool) :
      ∀ d ∈ (if afterBreak then Printer.indentation else []), isPrintable d = true := by
    cases afterBreak <;> exact List.all_eq_true.mp rfl
  induction cs generalizing afterBreak with
  | nil => exact blanks afterBreak
  | cons c cs ih =>
    obtain ⟨first, others⟩ := List.forall_mem_cons.mp printable
    rw [Printer.single]
    split
    -- A break, a quote and any other character are written as printable characters each.
    · exact List.forall_mem_cons.mpr ⟨first, ih others true⟩
    · refine List.forall_mem_append.mpr
        ⟨List.forall_mem_append.mpr ⟨blanks afterBreak, ?_⟩, ih others false⟩
      split
      · exact List.all_eq_true.mp rfl
      · simpa using first

end Single

section Double

/-- A digit in upper case has the same value. -/
theorem digitValue?_toUpper {d : Nat} (small : d < 16) :
    Text.digitValue? (Text.digitChar d).toUpper = some d ∧
      isPrintable (Text.digitChar d).toUpper = true := by
  -- There are sixteen digits, which can be looked at one after another.
  have each : ∀ d < 16, Text.digitValue? (Text.digitChar d).toUpper = some d ∧
      isPrintable (Text.digitChar d).toUpper = true := by decide
  exact each d small

/-- Digits in upper case denote what they denote in lower case. -/
theorem digitValues?_toUpper {ds : List Nat} (small : ∀ d ∈ ds, d < 16) :
    Text.digitValues? 16 ((ds.map Text.digitChar).map Char.toUpper) = some ds := by
  -- By induction on the digits, each of which is one of sixteen.
  induction ds with
  | nil => rfl
  | cons d rest ih =>
    obtain ⟨first, others⟩ := List.forall_mem_cons.mp small
    simp only [List.map_cons, Text.digitValues?, (digitValue?_toUpper first).1, ih others]
    simp [first]

/-- A code point is read from its digits, of which there are as many as are wanted. -/
theorem codePoint_hexadecimal {width : Nat} (positive : 0 < width) {c : Char}
    (bounded : c.toNat < 16 ^ width) :
    (Printer.hexadecimal width c.toNat).length = width ∧
      codePoint (Printer.hexadecimal width c.toNat) = some c ∧
      ∀ d ∈ Printer.hexadecimal width c.toNat, isPrintable d = true := by
  -- The digits are those of the number, with zeros in front of them.
  obtain ⟨ds, -, small, denotes, length, written⟩ :=
    Text.padded_digits (by decide : 2 ≤ 16) width c.toNat
  have same : Printer.hexadecimal width c.toNat = (ds.map Text.digitChar).map Char.toUpper := by
    rw [Printer.hexadecimal, Text.hexadecimal, written]
  refine ⟨by simpa [same] using length positive bounded, ?_, ?_⟩
  -- What the digits denote is the code of a character, and it has only one.
  · have valid : c.toNat.isValidChar := c.valid
    rw [← denotes] at valid
    rw [codePoint, same, digitValues?_toUpper small, Option.bind_eq_bind, Option.bind_some,
      dif_pos valid]
    exact congrArg some (Char.toNat_inj.mp denotes)
  · rw [same]
    intro d member
    simp only [List.map_map, List.mem_map, Function.comp_apply] at member
    obtain ⟨n, listed, rfl⟩ := member
    exact (digitValue?_toUpper (small n listed)).2

/-- Two digits after their mark are read as a code point. -/
theorem scanDouble_two (gap : Gap) (acc : List Char) (p : Place) {c : Char}
    (bounded : c.toNat ≤ 0xFF) (rest : List Char) :
    scanDouble gap acc p ('\\' :: 'x' :: (Printer.hexadecimal 2 c.toNat ++ rest)) =
      scanDouble Gap.none (c :: (gap.text.reverse ++ acc)) (p.skip 4) rest := by
  -- Exactly two digits follow the mark, whatever they are.
  obtain ⟨length, code, -⟩ := codePoint_hexadecimal (by decide : 0 < 2) (c := c) (by omega)
  match ds : Printer.hexadecimal 2 c.toNat, length, code with
  | [a, b], _, code => simp [scanDouble, code]

/-- Four digits after their mark are read as a code point. -/
theorem scanDouble_four (gap : Gap) (acc : List Char) (p : Place) {c : Char}
    (bounded : c.toNat ≤ 0xFFFF) (rest : List Char) :
    scanDouble gap acc p ('\\' :: 'u' :: (Printer.hexadecimal 4 c.toNat ++ rest)) =
      scanDouble Gap.none (c :: (gap.text.reverse ++ acc)) (p.skip 6) rest := by
  -- Exactly four digits follow the mark, whatever they are.
  obtain ⟨length, code, -⟩ := codePoint_hexadecimal (by decide : 0 < 4) (c := c) (by omega)
  match ds : Printer.hexadecimal 4 c.toNat, length, code with
  | [a, b, d, e], _, code => simp [scanDouble, code]

/-- A character that is no mark and not passed over is read as it is. -/
theorem scanDouble_cons {c : Char} (noQuote : c ≠ '"') (noEscape : c ≠ '\\')
    (noGap : isGap c = false) (gap : Gap) (acc : List Char) {p : Place} (inside : 0 < p.column)
    (rest : List Char) :
    scanDouble gap acc p (c :: rest) =
      scanDouble Gap.none (c :: (gap.text.reverse ++ acc)) p.next rest := by
  -- Away from the beginning of a line, marks of documents are not looked for.
  have below : (p.column == 0) = false := beq_eq_false_iff_ne.mpr (by omega)
  have backslash : (c == '\\') = false := beq_eq_false_iff_ne.mpr noEscape
  simp only [isGap, Bool.or_eq_false_iff] at noGap
  rw [scanDouble]
  · simp [noGap, below, backslash]
  all_goals
    intros
    simp_all

/-- What stands for a character between double quotes is read as that character, which waits for what
follows it if it is a space. -/
theorem scanDouble_escaped (c : Char) {gap : Gap} (line : gap.broken = false) (acc : List Char)
    {p : Place} (inside : 0 < p.column) :
    ∃ gap' acc' p', gap'.broken = false ∧
      acc'.reverse ++ gap'.text = acc.reverse ++ gap.text ++ [c] ∧ p'.line = p.line ∧
      0 < p'.column ∧ ∀ rest, scanDouble gap acc p (Printer.escaped c ++ rest) =
        scanDouble gap' acc' p' rest := by
  -- Anything but a space is put after the spaces before it.
  have other (n : Nat) (written : List Char)
      (reads : ∀ rest, scanDouble gap acc p (written ++ rest) =
        scanDouble Gap.none (c :: (gap.text.reverse ++ acc)) (p.skip n) rest) :
      ∃ gap' acc' p', gap'.broken = false ∧
        acc'.reverse ++ gap'.text = acc.reverse ++ gap.text ++ [c] ∧ p'.line = p.line ∧
        0 < p'.column ∧ ∀ rest, scanDouble gap acc p (written ++ rest) =
          scanDouble gap' acc' p' rest := by
    refine ⟨Gap.none, c :: (gap.text.reverse ++ acc), p.skip n, rfl, ?_, rfl, ?_, reads⟩
    · simp [Gap.none, Gap.text]
    · exact Nat.lt_of_lt_of_le inside (Nat.le_add_right _ _)
  unfold Printer.escaped
  split
  -- A character without an escape of its own is written as it is, if it is printable, or else by
  -- its digits.
  case h_15 quote backslash _ _ _ =>
    split
    · rename_i visible
      by_cases space : c = ' '
      · -- A space waits.
        subst space
        refine ⟨gap.blank ' ', acc, p.next, by simp [Gap.blank, line], ?_, rfl, Nat.succ_pos _,
          fun rest => ?_⟩
        · simp [Gap.blank, Gap.text, line]
        · simp [scanDouble, isBlank]
      -- Any other printable character is neither a blank nor a break.
      · have noGap : isGap c = false := by
          have noBlank : isBlank c = false := by
            rw [Bool.eq_false_iff]
            exact mt (isBlank_iff_of_isPrintable visible).mp space
          simp_all [isGap, isBreak]
        exact other 1 [c] fun rest => scanDouble_cons quote backslash noGap gap acc inside rest
    · rename_i hidden
      split
      · rename_i bounded
        exact other 4 _ fun rest => by simpa using scanDouble_two gap acc p bounded rest
      · split
        · rename_i bounded
          exact other 6 _ fun rest => by simpa using scanDouble_four gap acc p bounded rest
        · -- All characters beyond are written as they are.
          simp only [isPrintable, Bool.or_eq_true, decide_eq_true_eq, not_or] at hidden
          omega
  -- The characters that have an escape of their own are read from two characters.
  all_goals exact other 2 _ fun rest => by simp [scanDouble, isBreak, simpleEscape]

/-- The text between double quotes is read as it was, after the spaces that have been passed over. -/
theorem scanDouble_printed (cs rest : List Char) {gap : Gap} (line : gap.broken = false)
    (acc : List Char) {p : Place} (inside : 0 < p.column) :
    ∃ q, q.line = p.line ∧
      scanDouble gap acc p (cs.flatMap Printer.escaped ++ '"' :: rest) =
        some (acc.reverse ++ gap.text ++ cs, ⟨q, rest⟩) := by
  -- Each character is read by itself, with what the earlier ones have left to wait.
  induction cs generalizing gap acc p with
  | nil => exact ⟨p.next, rfl, by simp [scanDouble]⟩
  | cons c cs ih =>
    obtain ⟨gap', acc', p', line', text, same, inside', reads⟩ :=
      scanDouble_escaped c line acc inside
    obtain ⟨q, after, later⟩ := ih line' acc' inside'
    refine ⟨q, after.trans same, ?_⟩
    rw [List.flatMap_cons, List.append_assoc, reads, later, text]
    simp

/-- What stands for a character between double quotes may be written. -/
theorem isPrintable_escaped (c : Char) : ∀ d ∈ Printer.escaped c, isPrintable d = true := by
  -- Only the characters written by their digits need a closer look.
  unfold Printer.escaped
  split
  case h_15 =>
    split
    · rename_i visible
      simpa using visible
    · rename_i hidden
      split
      · rename_i bounded
        simp only [List.forall_mem_cons]
        exact ⟨by decide, by decide, (codePoint_hexadecimal (by decide) (by omega)).2.2⟩
      · split
        · rename_i bounded
          simp only [List.forall_mem_cons]
          exact ⟨by decide, by decide, (codePoint_hexadecimal (by decide) (by omega)).2.2⟩
        -- Characters beyond those with digits are printable as they are.
        · simp only [isPrintable, Bool.or_eq_true, decide_eq_true_eq, not_or] at hidden
          omega
  all_goals exact List.all_eq_true.mp rfl

end Double

end CsiOperator.Yaml.Quoted
