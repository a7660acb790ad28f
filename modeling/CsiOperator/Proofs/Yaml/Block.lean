import CsiOperator.Proofs.Yaml.Character

/-! Scalars that hold whole lines are read as they were written. -/

namespace CsiOperator.Yaml.Block

open Style (isPrintable)

/-- All that has been read of a block scalar, with the breaks that may still be chomped. -/
def State.content (s : State) : List Char :=
  s.text.reverse ++ s.first.toList ++ s.more.reverse

/-- No break has been passed over since the last other character. -/
def State.InLine (s : State) : Prop :=
  s.first = none ∧ s.more = []

/-- Whether a text leaves a reader at the start of a line that was or was not there before. -/
def endsLine (atStart : Bool) (cs : List Char) : Bool :=
  (cs.getLast?.map isBreak).getD atStart

theorem endsLine_cons (atStart : Bool) (c : Char) (cs : List Char) :
    endsLine atStart (c :: cs) = endsLine (isBreak c) cs := by
  -- Only the last character counts, and with one in front there always is one.
  rw [endsLine, endsLine, List.getLast?_cons]
  cases cs.getLast? <;> rfl

/-- Within a line nothing but the text has been read. -/
theorem State.InLine.content_eq {s : State} (inLine : s.InLine) : s.content = s.text.reverse := by
  simp [State.content, inLine.1, inLine.2]

/-- The blanks before a line are passed over. -/
theorem scan_indentation (s : State) {p : Place} (start : p.column = 0) (rest : List Char) :
    scan true 4 s false p (Printer.indentation ++ rest) = scan true 4 s false (p.skip 4) rest := by
  simp [Printer.indentation, scan, Place.next, Place.skip, start]

/-- A line of a collection around the scalar ends it. -/
theorem scan_indented {column : Nat} {next : List Char} (line : LineStart column next) (s : State)
    {p : Place} {margin : Nat} (start : p.column = margin) (shallow : margin + column ≤ 2) :
    scan true 4 s false p (indented column next) = some (s, ⟨p.skip column, next⟩) := by
  -- Induction on the blanks before the line: all of them are passed over, since they stop short of
  -- the scalar's own margin of four.
  induction column generalizing p margin with
  | zero =>
    cases next with
    | nil => rfl
    | cons c rest =>
      obtain ⟨noGap, -, -⟩ := line.visible c rfl
      simp only [isGap, isBlank, Bool.or_eq_false_iff] at noGap
      -- The line stands to the left of the margin, which is what ends the scalar.
      have left : p.column ≠ 4 := by omega
      simp [scan, noGap, left]
  | succ column ih =>
    have deeper : p.next.column = margin + 1 := by simp [Place.next, start]
    have later := ih ⟨by omega, line.visible⟩ deeper (by omega)
    have left : p.column < 4 := by omega
    rw [Place.skip_succ, indented_succ, scan, ← later]
    simp [left]

/-- A character is added to what has been read. -/
theorem scan_char {c : Char} (visible : isPrintable c = true) {atStart : Bool} {s : State}
    (inLine : atStart = false → s.InLine) {p : Place} (start : atStart = true → p.column = 0) :
    ∃ s' p', s'.content = s.content ++ [c] ∧ (isBreak c = false → s'.InLine) ∧
      (isBreak c = true → p'.column = 0) ∧ p.line ≤ p'.line ∧ ∀ rest,
        scan true 4 s (!atStart) p (Printer.literal atStart [c] ++ rest) =
          scan true 4 s' (!isBreak c) p' rest := by
  -- A break and any other character are told apart, and either at the start of a line or within
  -- one.
  by_cases isBreak' : isBreak c = true
  · have noSpace : c ≠ ' ' := by
      rintro rfl
      cases isBreak'
    have noTab : c ≠ '\t' := by
      rintro rfl
      cases isBreak'
    rw [isBreak', Printer.literal, if_pos isBreak']
    cases atStart with
    -- An empty line keeps its break for later, behind the first one.
    | true =>
      refine ⟨{ s with more := c :: s.more }, p.newline, ?_, by simp, fun _ => rfl,
        Nat.le_succ _, fun rest => ?_⟩
      · simp [State.content]
      · simp [Printer.literal, scan, start rfl, noSpace, noTab, isBreak']
    | false =>
      -- The break after a line is the first that may be chomped.
      obtain ⟨noFirst, noMore⟩ := inLine rfl
      refine ⟨{ s with first := some c }, p.newline, ?_, by simp, fun _ => rfl, Nat.le_succ _,
        fun rest => ?_⟩
      · simp [State.content, noFirst, noMore]
      · simp [Printer.literal, scan, isBreak']
  · have noBreak := Bool.eq_false_iff.mpr isBreak'
    rw [noBreak, Printer.literal, if_neg isBreak']
    cases atStart with
    | true =>
      -- The line begins here, after its four blanks.
      refine ⟨{ s.startLine true (isBlank c) with text := c :: (s.startLine true (isBlank c)).text },
        (p.skip 4).next, ?_, fun _ => ⟨rfl, rfl⟩, by simp, Nat.le_refl _, fun rest => ?_⟩
      · cases s with
        | mk text first more blankLine => cases first <;> simp [State.content, State.startLine]
      · rw [if_pos rfl, List.append_assoc, Bool.not_true, scan_indentation s (start rfl)]
        simp [Printer.literal, scan, Place.skip, start rfl, noBreak]
    | false =>
      -- Within a line there is nothing to settle before the character.
      obtain ⟨noFirst, noMore⟩ := inLine rfl
      refine ⟨{ s with text := c :: s.text }, p.next, ?_, fun _ => ⟨noFirst, noMore⟩, by simp,
        Nat.le_refl _, fun rest => ?_⟩
      · simp [State.content, noFirst, noMore]
      · simp [Printer.literal, scan, noBreak]

/-- A text is added to what has been read. -/
theorem scan_printed {cs : List Char} (printable : ∀ c ∈ cs, isPrintable c = true) {atStart : Bool}
    {s : State} (inLine : atStart = false → s.InLine) {p : Place}
    (start : atStart = true → p.column = 0) :
    ∃ s' p', s'.content = s.content ++ cs ∧ (endsLine atStart cs = false → s'.InLine) ∧
      (endsLine atStart cs = true → p'.column = 0) ∧ p.line ≤ p'.line ∧ ∀ rest,
        scan true 4 s (!atStart) p (Printer.literal atStart cs ++ rest) =
          scan true 4 s' (!endsLine atStart cs) p' rest := by
  -- By induction on the text; a break and any other character leave different states behind.
  induction cs generalizing atStart s p with
  | nil => exact ⟨s, p, by simp, inLine, start, Nat.le_refl _, fun rest => rfl⟩
  | cons c cs ih =>
    obtain ⟨first, others⟩ := List.forall_mem_cons.mp printable
    obtain ⟨s₁, p₁, content₁, inLine₁, start₁, line₁, reads₁⟩ := scan_char first inLine start
    obtain ⟨s₂, p₂, content₂, inLine₂, start₂, line₂, reads₂⟩ := ih others inLine₁ start₁
    -- The first character is written by itself, in a line that is or is not its own.
    have split : Printer.literal atStart (c :: cs) =
        Printer.literal atStart [c] ++ Printer.literal (isBreak c) cs := by
      by_cases isBreak' : isBreak c = true
      · simp [Printer.literal, isBreak']
      · simp [Printer.literal, Bool.eq_false_iff.mpr isBreak']
    rw [endsLine_cons]
    refine ⟨s₂, p₂, ?_, inLine₂, start₂, Nat.le_trans line₁ line₂, fun rest => ?_⟩
    · rw [content₂, content₁, List.append_assoc, List.singleton_append]
    · rw [split, List.append_assoc, reads₁, reads₂]

/-- One part of a text is written after the other one. -/
theorem literal_append (front cs : List Char) (atStart : Bool) :
    Printer.literal atStart (front ++ cs) =
      Printer.literal atStart front ++ Printer.literal (endsLine atStart front) cs := by
  -- Only what `front` leaves the writer in, at the start of a line or within one, passes on to the
  -- rest.
  induction front generalizing atStart with
  | nil => rfl
  | cons c front ih =>
    rw [List.cons_append, Printer.literal, Printer.literal, endsLine_cons, ih, ih]
    by_cases isBreak' : isBreak c = true
    · simp [isBreak']
    · simp [Bool.eq_false_iff.mpr isBreak']

/-- What becomes of the breaks at the end of a text, so that just these are kept. -/
def chomping (cs : List Char) : Chomping :=
  -- The last two characters tell how many breaks there are at the end: none, one or more.
  match cs.reverse with
  | [] => .strip
  | [c] => if isBreak c then .keep else .strip
  | c :: d :: _ => if !isBreak c then .strip else if isBreak d then .keep else .clip

/-- The width of the lines, where it cannot be seen. -/
def width (cs : List Char) : Option Nat :=
  if cs.head?.any fun c => c == ' ' || isBreak c then some 2 else none

/-- The marks after that of a literal scalar are read as what they stand for. -/
theorem header_hints (cs rest : List Char) :
    header (Printer.hints cs ++ '\n' :: rest) = some (chomping cs, width cs, '\n' :: rest) := by
  -- The marks depend on the first character and the last two, so nothing else is kept.
  unfold Printer.hints chomping width
  generalize cs.head?.any (fun c => c == ' ' || isBreak c) = hidden
  generalize cs.reverse = reversed
  -- There are six ways to write the marks.
  rcases reversed with _ | ⟨c, _ | ⟨d, more⟩⟩
  · cases hidden <;> rfl
  · dsimp only
    cases isBreak c <;> cases hidden <;> rfl
  · dsimp only
    cases isBreak c <;> cases isBreak d <;> cases hidden <;> rfl

/-- The lines of a scalar, of which the last one is ended. -/
def body (cs : List Char) : List Char :=
  Printer.literal true cs ++ if endsLine true cs then [] else ['\n']

/-- The lines of a scalar are read up to a line of a collection around it, and the breaks at their end
are chomped as they should be. -/
theorem scan_body {cs : List Char} (printable : ∀ c ∈ cs, isPrintable c = true) (some' : cs ≠ [])
    {column : Nat} {next : List Char} (line : LineStart column next) {p : Place}
    (start : p.column = 0) :
    ∃ s q, scan true 4 ⟨[], none, [], false⟩ false p (body cs ++ indented column next) =
        some (s, ⟨q, next⟩) ∧
      s.chomped (chomping cs) = cs ∧ q.column = column ∧ p.line ≤ q.line := by
  -- The state is empty in front of the first line, so whatever is read comes from the lines.
  have empty : (State.mk [] none [] false).content = [] := rfl
  have fresh : true = false → (State.mk [] none [] false).InLine := by simp
  have there (_ : true = true) : p.column = 0 := start
  -- However the scalar ends, it ends at the start of a line, before the line of a collection.
  have finish (s : State) {q : Place} (there : q.column = 0) (later : p.line ≤ q.line)
      (chomps : s.chomped (chomping cs) = cs)
      (reads : ∀ rest, scan true 4 ⟨[], none, [], false⟩ false p (body cs ++ rest) =
        scan true 4 s false q rest) :
      ∃ s q, scan true 4 ⟨[], none, [], false⟩ false p (body cs ++ indented column next) =
          some (s, ⟨q, next⟩) ∧
        s.chomped (chomping cs) = cs ∧ q.column = column ∧ p.line ≤ q.line := by
    have shallow : 0 + column ≤ 2 := by
      have := line.shallow
      omega
    refine ⟨s, q.skip column, ?_, chomps, by simp [Place.skip, there], later⟩
    rw [reads, scan_indented line s there shallow]
  obtain ⟨c, reversed, ends⟩ : ∃ c reversed, cs.reverse = c :: reversed :=
    List.exists_cons_of_ne_nil (by simpa using some')
  obtain rfl : cs = reversed.reverse ++ [c] := by simpa using congrArg List.reverse ends
  obtain ⟨s, q, content, inLine, there, later, reads⟩ :=
    scan_printed printable fresh there
  have last : endsLine true (reversed.reverse ++ [c]) = isBreak c := by simp [endsLine]
  rw [last] at inLine there reads
  rw [empty, List.nil_append] at content
  cases isBreak' : isBreak c with
  | false =>
    -- The break that ends the last line is dropped.
    rw [isBreak'] at reads
    refine finish { s with first := some '\n' } (q := q.newline) rfl (Nat.le_succ_of_le later) ?_
      fun rest => ?_
    · have strip : chomping (reversed.reverse ++ [c]) = .strip := by
        unfold chomping
        rw [ends]
        cases reversed <;> simp [isBreak']
      rw [strip, ← content, (inLine isBreak').content_eq]
      rfl
    · rw [body, last, isBreak', List.append_assoc]
      exact (reads _).trans (by simp [scan, isBreak])
  | true =>
    have kept : body (reversed.reverse ++ [c]) = Printer.literal true (reversed.reverse ++ [c]) := by
      simp [body, last, isBreak']
    have keep (same : chomping (reversed.reverse ++ [c]) = .keep) :=
      finish s (there isBreak') later (by rw [same]; exact content)
        fun rest => by rw [kept]; simpa [isBreak'] using reads rest
    cases reversed with
    | nil => exact keep (by simp [chomping, isBreak'])
    | cons d more =>
      cases isBreakBefore : isBreak d with
      | true => exact keep (by simp [chomping, isBreak', isBreakBefore])
      | false =>
        -- Just the one break after the last line is kept.
        have visible : ∀ e ∈ more.reverse ++ [d], isPrintable e = true := by
          intro e member
          rw [List.reverse_cons] at printable
          exact printable e (List.mem_append_left _ member)
        obtain ⟨s, q, content, inLine, -, later, reads⟩ :=
          scan_printed visible fresh fun _ => start
        have before : endsLine true (more.reverse ++ [d]) = false := by simp [endsLine, isBreakBefore]
        obtain ⟨noFirst, noMore⟩ := inLine before
        refine finish { s with first := some c } (q := q.newline) rfl (Nat.le_succ_of_le later) ?_
          fun rest => ?_
        · have clip : chomping ((d :: more).reverse ++ [c]) = .clip := by
            simp [chomping, isBreak', isBreakBefore]
          rw [empty, List.nil_append, (inLine before).content_eq] at content
          rw [clip, State.chomped, content]
          simp
        · rw [kept, List.reverse_cons, literal_append, List.append_assoc]
          refine (reads _).trans ?_
          rw [before]
          simp [Printer.literal, isBreak', scan]

/-- The first line of a text shows how wide its blanks are, unless it begins with one itself. -/
theorem leadingLines_literal {c : Char} (visible : isPrintable c = true) (noBreak : isBreak c = false)
    (noSpace : c ≠ ' ') {p : Place} (start : p.column = 0) (rest : List Char) :
    leadingLines 0 [] p (Printer.indentation ++ c :: rest) =
      some (4, [], ⟨p.skip 4, c :: rest⟩) := by
  -- A tabulator in the margin would be refused, and none is written there.
  have noTab : c ≠ '\t' := by
    rintro rfl
    cases visible
  simp [Printer.indentation, leadingLines, Place.next, Place.skip, start, noBreak, noSpace, noTab]

/-- After its marks a literal scalar is read from the next line, at a width that is given or seen. -/
theorem read_hints (cs rest : List Char) (p : Place) :
    ∃ start : Place, start.column = 0 ∧ start.line = p.line + 1 ∧
      read true 2 ⟨p, Printer.hints cs ++ '\n' :: rest⟩ =
        match width cs with
        | some n => (scan true (2 + n) ⟨[], none, [], false⟩ false start rest).bind
          fun (s, cursor) => some (s.chomped (chomping cs), cursor)
        | none => (leadingLines 0 [] start rest).bind fun (seen, breaks, cursor) =>
          (scan true (max (max seen 3) 1) ⟨[], none, breaks, false⟩ false cursor.place
            cursor.rest).bind fun (s, cursor) => some (s.chomped (chomping cs), cursor) := by
  -- The marks stand on a line of their own, so the text starts right below them.
  refine ⟨(p.skip (Printer.hints cs).length).newline, rfl, rfl, ?_⟩
  have word : ('\n' :: rest).dropWhile isBlank = '\n' :: rest := rfl
  have count : (Printer.hints cs ++ '\n' :: rest).length - ('\n' :: rest).length =
      (Printer.hints cs).length := by simp
  simp only [read, header_hints, Option.bind_eq_bind, Option.bind_some, word, List.head?_cons,
    show (some '\n' == some '#') = false from rfl, Bool.false_eq_true, if_false, count,
    show isBreak '\n' = true from rfl, if_true]
  rfl

/-- A literal scalar is read as it was written. -/
theorem read_printed {cs : List Char} (printable : ∀ c ∈ cs, isPrintable c = true) (some' : cs ≠ [])
    {column : Nat} {next : List Char} (line : LineStart column next) (p : Place) :
    ∃ q, read true 2 ⟨p, Printer.hints cs ++ '\n' :: (body cs ++ indented column next)⟩ =
        some (cs, ⟨q, next⟩) ∧ q.column = column ∧ p.line < q.line := by
  -- The marks tell how to chomp and how far the lines are indented.
  obtain ⟨start, margin, below, reads⟩ := read_hints cs (body cs ++ indented column next) p
  obtain ⟨s, q, scans, chomps, there, later⟩ := scan_body printable some' line margin
  refine ⟨q, ?_, there, by omega⟩
  -- The width is given in the marks, or it is that of the first line.
  rw [reads, width]
  split
  · rename_i n hinted
    obtain rfl : 2 = n := by
      split at hinted
      · exact Option.some.inj hinted
      · cases hinted
    simp [scans, chomps]
  · rename_i seen
    -- The first line begins with a visible character after its blanks.
    cases cs with
    | nil => exact absurd rfl some'
    | cons c cs =>
      have hidden : (c == ' ' || isBreak c) = false := by
        cases found : c == ' ' || isBreak c with
        | false => rfl
        | true => simp [found] at seen
      obtain ⟨noSpace, noBreak⟩ := Bool.or_eq_false_iff.mp hidden
      have split : body (c :: cs) ++ indented column next = Printer.indentation ++
          c :: (Printer.literal false cs ++ (if endsLine true (c :: cs) then [] else ['\n']) ++
            indented column next) := by
        simp [body, Printer.literal, noBreak]
      rw [split] at scans ⊢
      rw [leadingLines_literal (printable c List.mem_cons_self) noBreak (by simpa using noSpace)
        margin]
      rw [scan_indentation _ margin] at scans
      show (scan true 4 ⟨[], none, [], false⟩ false (start.skip 4) _).bind _ = _
      rw [scans, Option.bind_some]
      simp only [chomps]

/-- The lines of a text end in its last character. -/
theorem getLast?_literal {cs : List Char} (nonempty : cs ≠ []) (atStart : Bool) :
    (Printer.literal atStart cs).getLast? = cs.getLast? := by
  -- The last character is written last, behind at most its blanks.
  obtain ⟨front, c, rfl⟩ := List.eq_nil_or_concat cs |>.resolve_left nonempty
  rw [List.concat_eq_append, literal_append, Printer.literal]
  split
  all_goals simp [Printer.literal]

/-- The marks of a literal scalar may be written. -/
theorem isPrintable_hints (cs : List Char) : ∀ d ∈ Printer.hints cs, isPrintable d = true := by
  -- The same six ways as when the marks are read.
  unfold Printer.hints
  generalize cs.head?.any (fun c => c == ' ' || isBreak c) = hidden
  rcases cs.reverse with _ | ⟨c, _ | ⟨d, more⟩⟩
  · cases hidden <;> exact List.all_eq_true.mp rfl
  · dsimp only
    cases isBreak c <;> cases hidden <;> exact List.all_eq_true.mp rfl
  · dsimp only
    cases isBreak c <;> cases isBreak d <;> cases hidden <;> exact List.all_eq_true.mp rfl

/-- The lines of a literal scalar may be written. -/
theorem isPrintable_literal {cs : List Char} (printable : ∀ c ∈ cs, isPrintable c = true)
    (atStart : Bool) : ∀ d ∈ Printer.literal atStart cs, isPrintable d = true := by
  -- Indentation is made of blanks, which are printable.
  have blanks (atStart : Bool) :
      ∀ d ∈ (if atStart then Printer.indentation else []), isPrintable d = true := by
    cases atStart <;> exact List.all_eq_true.mp rfl
  induction cs generalizing atStart with
  | nil => simp [Printer.literal]
  | cons c cs ih =>
    obtain ⟨first, others⟩ := List.forall_mem_cons.mp printable
    rw [Printer.literal]
    split
    · exact List.forall_mem_cons.mpr ⟨first, ih others true⟩
    · exact List.forall_mem_append.mpr
        ⟨blanks atStart, List.forall_mem_cons.mpr ⟨first, ih others false⟩⟩

end CsiOperator.Yaml.Block
