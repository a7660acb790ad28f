import CsiOperator.Proofs.Yaml.Block
import CsiOperator.Proofs.Yaml.Quoted
import CsiOperator.Proofs.Yaml.Scan

/-! A text under a key or in a list is read as one scalar, whatever its style. -/

namespace CsiOperator.Yaml

open Style (isPrintable isAnyBreak isSpace holdsPair)

namespace Style

/-- A text that needs no double quotes can be written as it is, and loses no space before a break. -/
theorem printable_of_needsDouble {cs : List Char} (no : needsDouble cs = false) :
    (∀ c ∈ cs, isPrintable c = true) ∧ holdsPair isSpace isAnyBreak cs = false := by
  -- The two parts of the check are those of the claim.
  obtain ⟨printable, noLoss⟩ := Bool.or_eq_false_iff.mp no
  exact ⟨by simpa using printable, noLoss⟩

/-- What holds of a text is seen from its style. -/
theorem of_spec (s : String) :
    match Style.of s with
    | .plain => isAmbiguous s = false ∧ allowsPlain s.toList = true
    | .single => '\n' ∉ s.toList ∧ allowsSingle s.toList = true
    | .double => True
    | .literal => s.toList ≠ [] ∧ allowsLiteral s.toList = true := by
  -- The splits ask what the printer asks, in its order: a line feed, then plain, then single
  -- quotes.
  unfold Style.of
  by_cases feed : '\n' ∈ s.toList
  · have some' : s.toList ≠ [] := List.ne_nil_of_mem feed
    by_cases literal : allowsLiteral s.toList = true
    · simp [feed, literal, some']
    · simp [feed, literal]
  · by_cases plain : isAmbiguous s = false ∧ allowsPlain s.toList = true
    · simp [feed, plain]
    · have quoted : (!isAmbiguous s && allowsPlain s.toList) = false := by
        rw [Bool.eq_false_iff, ne_eq, Bool.and_eq_true, Bool.not_eq_true']
        exact plain
      by_cases single : allowsSingle s.toList = true
      · simp [feed, quoted, single]
      · simp [feed, quoted, single]

/-- What holds of a text that is written without quotes. -/
structure Bare (cs : List Char) : Prop where
  /-- It is written on one line, character by character. -/
  visible : ∀ c ∈ cs, isPrintable c = true ∧ isBreak c = false
  /-- It begins with a character that is not passed over. -/
  start : ∃ c rest, cs = c :: rest ∧ isGap c = false ∧ startsIndicator (c :: rest) = false
  /-- It holds no indicator. -/
  noIndicator : holdsIndicator false cs = false
  /-- It does not end in a space. -/
  last : cs.getLast? ≠ some ' '

/-- A text without quotes is not empty, and is written on one line. -/
theorem bare_of_plain {s : String} (clear : isAmbiguous s = false)
    (allows : allowsPlain s.toList = true) : Bare s.toList := by
  -- All that a plain scalar needs is asked when it is allowed.
  simp only [allowsPlain, allowsSingle, Bool.and_eq_true, Bool.not_eq_true', bne_iff_ne] at allows
  obtain ⟨⟨⟨⟨⟨⟨noDouble, -⟩, noBreaks⟩, first⟩, last⟩, noStart⟩, noIndicator⟩ := allows
  have visible : ∀ c ∈ s.toList, isPrintable c = true ∧ isBreak c = false := by
    intro c member
    have printable := (printable_of_needsDouble noDouble).1 c member
    have noBreak := List.any_eq_false.mp noBreaks c member
    rw [isAnyBreak_of_isPrintable printable] at noBreak
    exact ⟨printable, Bool.eq_false_iff.mpr noBreak⟩
  -- The empty text would allow the plain style, but it reads as null and so is ambiguous.
  have some' : s.toList ≠ [] := by
    intro none
    obtain rfl : s = "" := String.toList_eq_nil_iff.mp none
    cases clear
  obtain ⟨c, rest, text⟩ := List.exists_cons_of_ne_nil some'
  rw [text] at visible first last noStart noIndicator ⊢
  obtain ⟨printable, noBreak⟩ := visible c List.mem_cons_self
  have noBlank : isBlank c = false := by
    rw [Bool.eq_false_iff, ne_eq, isBlank_iff_of_isPrintable printable]
    simpa using first
  -- The printer checked for indicators behind the first character only; the first is no gap, so the
  -- check extends to it.
  have here : endsHere [c] = false := by
    simp [endsHere, noBlank, isAnyBreak_of_isPrintable printable, noBreak]
  exact {
    visible
    start := ⟨c, rest, rfl, by simp [isGap, noBlank, noBreak], noStart⟩
    noIndicator := Plain.holdsIndicator_cons here noStart noIndicator
    last }

end Style

namespace Scan

/-- A possible key to the right of a map is not required, and is given up on a later line. -/
theorem possibleKey_optional {p q : Place} (inside : 2 < p.column) (later : p.line < q.line)
    (rest : List Char) (number : Nat) (allowed : Bool) :
    ∀ k ∈ possibleKey ⟨p, rest⟩ number 2 allowed, k.required = false ∧ k.place.line < q.line := by
  -- Whether there is a key at all is decided by what came before the scalar.
  intro k member
  cases allowed with
  | false => cases member
  -- A key is required only at the indentation of its block, and this scalar stands to the right of
  -- it.
  | true =>
    obtain rfl := Option.some.inj member
    refine ⟨beq_eq_false_iff_ne.mpr ?_, later⟩
    dsimp only
    omega

/-- Outside flow collections a scalar between quotes is read as far as it goes. -/
theorem token_quoted {p : Place} (inside : 2 < p.column) (double : Bool) {rest text : List Char}
    {after : Cursor}
    (reads : (if double then Quoted.scanDouble else Quoted.scanSingle) Gap.none [] p.next rest =
      some (text, after)) (tokens : List Token) (indent : Int) (indents : List Int) (allowed : Bool) :
    (⟨⟨p, (if double then '"' else '\'') :: rest⟩, tokens, indent, indents, [none],
        allowed⟩ : Scan).token =
      some ⟨after, .scalar (String.ofList text) false :: tokens, indent, indents,
        [possibleKey ⟨p, (if double then '"' else '\'') :: rest⟩ tokens.length indent allowed],
        false⟩ := by
  -- No document mark can start here, since those stand in the first column only.
  have notStart : (p.column == 0) = false := beq_eq_false_iff_ne.mpr (by omega)
  have quoted (s : Scan) (text : s.cursor = ⟨p, (if double then '"' else '\'') :: rest⟩) :
      s.token = s.quotedScalar double := by
    rw [token, text]
    cases double <;> simp [notStart]
  rw [quoted _ rfl, quotedScalar, saveKey_block]
  simp only [Option.bind_eq_bind, Option.bind_some, List.drop_one, List.tail_cons, reads]
  rfl

/-- Outside flow collections a literal scalar is read as far as it goes. -/
theorem token_literal {p : Place} (inside : 2 < p.column) {rest text : List Char} {after : Cursor}
    {indent : Int} (reads : Block.read true indent ⟨p.skip 1, rest⟩ = some (text, after))
    (tokens : List Token) (indents : List Int) (allowed : Bool) :
    (⟨⟨p, '|' :: rest⟩, tokens, indent, indents, [none], allowed⟩ : Scan).token =
      some ⟨after, .scalar (String.ofList text) false :: tokens, indent, indents, [none], true⟩ := by
  -- The scalar is not at the start of a line, so no mark of a document is in the way.
  have notStart : (p.column == 0) = false := beq_eq_false_iff_ne.mpr (by omega)
  have literal (s : Scan) (text : s.cursor = ⟨p, '|' :: rest⟩) (block : s.inFlow = false) :
      s.token = s.blockScalar true := by
    rw [token, text]
    simp [notStart, block]
  -- No key was possible before this token, so none is to be given up.
  have free : (⟨⟨p, '|' :: rest⟩, tokens, indent, indents, [none], allowed⟩ : Scan).removeKey =
      some ⟨⟨p, '|' :: rest⟩, tokens, indent, indents, [none], allowed⟩ := rfl
  have skipped : (Cursor.mk p ('|' :: rest)).skip 1 = ⟨p.skip 1, rest⟩ := rfl
  rw [literal _ rfl rfl, blockScalar, free]
  simp only [Option.bind_eq_bind, Option.bind_some, skipped, reads]
  rfl

/-- A token on a line of a map is read where it stands. -/
theorem unroll_inside {p : Place} (inside : 2 < p.column) (rest : List Char) (tokens : List Token)
    (indents : List Int) (key : Option SimpleKey) (allowed : Bool) :
    (⟨⟨p, rest⟩, tokens, 2, indents, [key], allowed⟩ : Scan).unroll p.column =
      ⟨⟨p, rest⟩, tokens, 2, indents, [key], allowed⟩ :=
  -- The map is indented by two, and the token is no further to the left.
  unroll_same (by
    show (2 : Int) ≤ p.column
    omega)

/-- After a scalar on a line of a map, a scan arrives at a token on a later line. -/
theorem Next.of_scalar {p q : Place} (inside : 2 < p.column) (later : p.line < q.line)
    {rest next : List Char} {cursor : Cursor} {token : Token} {tokens : List Token}
    {indents : List Int} {allowed after : Bool}
    (reads : (⟨⟨p, rest⟩, tokens, 2, indents, [none], allowed⟩ : Scan).token =
      some ⟨cursor, token :: tokens, 2, indents,
        [possibleKey ⟨p, rest⟩ tokens.length 2 allowed], after⟩)
    (more : token ≠ .streamEnd)
    (arrives : toToken false after false cursor.place cursor.rest = (true, ⟨q, next⟩))
    (shorter : next.length < rest.length) :
    Next ⟨⟨p, rest⟩, tokens, 2, indents, [none], allowed⟩
      ⟨⟨q, next⟩, token :: tokens, 2, indents, [none], true⟩ :=
  -- What might have been a key is dropped on the way, because no colon follows on its line.
  Next.of_optional
    ((congrArg Scan.token (unroll_inside inside rest tokens indents none allowed)).trans reads) more
    (possibleKey_optional inside later rest tokens.length allowed) arrives shorter

/-- A line is ended where its scalar has not ended it. -/
theorem line_of_concat {s : String} {front : List Char} {c : Char}
    (written : Printer.scalar s = front ++ [c]) (noBreak : isBreak c = false) :
    Printer.line s = Printer.scalar s ++ ['\n'] := by
  -- The scalar's last character decides whether a break has been written.
  have last : (Printer.scalar s).getLast? = some c := by rw [written, List.getLast?_concat]
  simp [Printer.line, last, noBreak]

/-- A scalar is not passed over. -/
theorem startsToken_line (s : String) (rest : List Char) :
    StartsToken (Printer.line s ++ rest) := by
  -- The first character depends on the style in which the scalar is written.
  have spec := Style.of_spec s
  -- Only a scalar without quotes begins with a character of the text.
  have first : ∃ c cs, Printer.scalar s = c :: cs ∧ isGap c = false ∧ c ≠ '#' ∧
      c ≠ byteOrderMark := by
    unfold Printer.scalar
    cases style : Style.of s with
    | plain =>
      rw [style] at spec
      obtain ⟨visible, ⟨c, cs, text, noGap, noStart⟩, -, -⟩ := Style.bare_of_plain spec.1 spec.2
      refine ⟨c, cs, text, noGap, ?_, ?_⟩
      · rintro rfl
        simp [Style.startsIndicator] at noStart
      · rintro rfl
        have printable := (visible byteOrderMark (by simp [text])).1
        revert printable
        decide
    | single => exact ⟨_, _, rfl, by decide⟩
    | double => exact ⟨_, _, rfl, by decide⟩
    | literal => exact ⟨_, _, rfl, by decide⟩
  obtain ⟨c, cs, written, visible⟩ := first
  have head : (Printer.line s ++ rest).head? = some c := by
    rw [Printer.line, written]
    split <;> rfl
  rintro d member
  rw [head] at member
  obtain rfl := Option.some.inj member
  exact visible

/-- A scalar may be written. -/
theorem isPrintable_line (s : String) : ∀ c ∈ Printer.line s, isPrintable c = true := by
  -- Each style has its own way to write, and none writes more than may be written.
  have spec := Style.of_spec s
  have scalar : ∀ c ∈ Printer.scalar s, isPrintable c = true := by
    unfold Printer.scalar
    cases style : Style.of s with
    | plain =>
      rw [style] at spec
    -- A plain text is written as it is, so what it is made of is what is written.
      exact fun c member => ((Style.bare_of_plain spec.1 spec.2).visible c member).1
    | single =>
      rw [style] at spec
      have allows := spec.2
      simp only [Style.allowsSingle, Bool.and_eq_true, Bool.not_eq_true'] at allows
      have printable := Quoted.isPrintable_single (Style.printable_of_needsDouble allows.1).1 false
      exact List.forall_mem_append.mpr
        ⟨List.forall_mem_cons.mpr ⟨rfl, printable⟩, List.all_eq_true.mp rfl⟩
    | double =>
      -- Each character's escape may be written, whatever the character is.
      have printable : ∀ c ∈ s.toList.flatMap Printer.escaped, isPrintable c = true := by
        intro c member
        obtain ⟨d, -, written⟩ := List.mem_flatMap.mp member
        exact Quoted.isPrintable_escaped d c written
      exact List.forall_mem_append.mpr
        ⟨List.forall_mem_cons.mpr ⟨rfl, printable⟩, List.all_eq_true.mp rfl⟩
    | literal =>
      rw [style] at spec
      have allows := spec.2
      simp only [Style.allowsLiteral, Bool.and_eq_true, Bool.not_eq_true'] at allows
      have printable := (Style.printable_of_needsDouble allows.1).1
      exact List.forall_mem_append.mpr
        ⟨List.forall_mem_cons.mpr ⟨rfl, Block.isPrintable_hints s.toList⟩,
          List.forall_mem_cons.mpr ⟨rfl, Block.isPrintable_literal printable true⟩⟩
  rw [Printer.line]
  split
  · exact scalar
  · exact List.forall_mem_append.mpr ⟨scalar, List.all_eq_true.mp rfl⟩

section Styles

variable {s : String} {p : Place} (inside : 2 < p.column) {column : Nat} {next : List Char}
  (line : LineStart column next) (tokens : List Token) (indents : List Int) (allowed : Bool)

include inside line

/-- A text without quotes is read as it was written. -/
theorem next_plain (bare : Style.Bare s.toList) : ∃ q, q.column = column ∧
    Next ⟨⟨p, s.toList ++ '\n' :: indented column next⟩, tokens, 2, indents, [none], allowed⟩
      ⟨⟨q, next⟩, .scalar s true :: tokens, 2, indents, [none], true⟩ := by
  -- A scalar without quotes is read up to its break, since nothing in it ends it earlier.
  obtain ⟨visible, ⟨c, cs, text, noGap, noStart⟩, noIndicator, last⟩ := bare
  -- The scalar ends at its break, and the next token stands `column` blanks into the next line.
  obtain ⟨q, isQ⟩ : ∃ q, q = (p.skip s.toList.length).newline.skip column := ⟨_, rfl⟩
  have later : p.line < q.line := by
    rw [isQ]
    exact Nat.lt_succ_self _
  have there : q.column = column := by simp [isQ, Place.skip, Place.newline]
  have none : ∀ c ∈ ([] : List Char), c = ' ' := by simp
  have right : (2 : Int) < p.column := by omega
  have reads := Plain.scan_chars line (Int.le_refl 2) visible none noIndicator (by simpa using last)
    [] right
  have starts := Plain.startsAt_append noGap noStart ('\n' :: indented column next)
  rw [← isQ] at reads
  have token : (⟨⟨p, s.toList ++ '\n' :: indented column next⟩, tokens, 2, indents, [.none],
      allowed⟩ : Scan).token = _ :=
    (token_plain (by simp [text]) (by dsimp only; omega) rfl starts).trans
      (plainScalar_block reads tokens indents allowed)
  simp only [List.reverse_nil, List.nil_append, String.ofList_toList] at token
  refine ⟨q, there, Next.of_scalar inside later token (by simp) ?_ ?_⟩
  · exact toToken_indented line.visible true q 0
  · simp [indented]
    omega

/-- A text between quotes is read as it was written. -/
theorem next_quoted (double : Bool) (written : List Char) {after : Place} (forward : p.line ≤ after.line)
    (reads : (if double then Quoted.scanDouble else Quoted.scanSingle) Gap.none [] p.next
      (written ++ '\n' :: indented column next) =
        some (s.toList, ⟨after, '\n' :: indented column next⟩)) :
    ∃ q, q.column = column ∧
      Next ⟨⟨p, (if double then '"' else '\'') :: (written ++ '\n' :: indented column next)⟩, tokens, 2,
          indents, [none], allowed⟩
        ⟨⟨q, next⟩, .scalar s false :: tokens, 2, indents, [none], true⟩ := by
  -- Either kind of quotes leaves the cursor on the break that ends the line.
  have token := token_quoted inside double reads tokens 2 indents allowed
  rw [String.ofList_toList] at token
  refine ⟨after.newline.skip column, by simp [Place.skip, Place.newline],
    Next.of_scalar inside (Nat.lt_succ_of_le forward) token (by simp) ?_ ?_⟩
  · exact toToken_newline line.visible false after column
  · simp [indented]
    omega

/-- A text of whole lines is read as it was written. -/
theorem next_literal (visible : ∀ c ∈ s.toList, isPrintable c = true) (some' : s.toList ≠ []) :
    ∃ q, q.column = column ∧
      Next ⟨⟨p, '|' :: (Printer.hints s.toList ++ '\n' :: (Block.body s.toList ++
          indented column next))⟩, tokens, 2, indents, [none], allowed⟩
        ⟨⟨q, next⟩, .scalar s false :: tokens, 2, indents, [none], true⟩ := by
  -- A literal block reads on through its break and the indentation behind it.
  obtain ⟨q, reads, there, later⟩ := Block.read_printed visible some' line (p.skip 1)
  have token := token_literal inside reads tokens indents allowed
  rw [String.ofList_toList] at token
  refine ⟨q, there, Next.of_optional
    ((congrArg Scan.token (unroll_inside inside _ tokens indents none allowed)).trans token) (by simp)
    (by simp) ?_ ?_⟩
  · exact toToken_indented line.visible true q 0
  · simp [indented]
    omega

/-- A text is read as it was written, whatever its style. -/
theorem next_text (s : String) : ∃ q, q.column = column ∧
    Next ⟨⟨p, Printer.line s ++ indented column next⟩, tokens, 2, indents, [none], allowed⟩
      ⟨⟨q, next⟩, .scalar s (Style.of s == .plain) :: tokens, 2, indents, [none], true⟩ := by
  -- Each style has its own reader; what the style says of the text is what that reader needs.
  have spec := Style.of_spec s
  cases style : Style.of s with
  | plain =>
    rw [style] at spec
    have bare := Style.bare_of_plain spec.1 spec.2
    have some' : s.toList ≠ [] := by
      obtain ⟨c, cs, text, -⟩ := bare.start
      simp [text]
    obtain ⟨front, c, text⟩ := List.eq_nil_or_concat s.toList |>.resolve_left some'
    rw [List.concat_eq_append] at text
    have written : Printer.scalar s = s.toList := by simp [Printer.scalar, style]
    have ended := line_of_concat (written.trans text) (bare.visible c (by simp [text])).2
    rw [ended, written, List.append_assoc]
    exact next_plain inside line tokens indents allowed bare
  | single =>
    rw [style] at spec
    obtain ⟨noFeed, allows⟩ := spec
    simp only [Style.allowsSingle, Bool.and_eq_true, Bool.not_eq_true'] at allows
    obtain ⟨noDouble, noIndent⟩ := allows
    obtain ⟨printable, noLoss⟩ := Style.printable_of_needsDouble noDouble
    have visible : ∀ c ∈ s.toList, isPrintable c = true ∧ c ≠ '\n' := by
      intro c member
      refine ⟨printable c member, ?_⟩
      rintro rfl
      exact noFeed member
    -- What follows is a break, so the closing quote cannot be half of a doubled one.
    have ends : ('\n' :: indented column next).head? ≠ some '\'' := by simp
    obtain ⟨after, forward, reads⟩ := Quoted.scanSingle_printed visible .none noLoss noIndent ends []
      (p := p.next) fun _ => Nat.succ_pos _
    have written : Printer.scalar s = ('\'' :: Printer.single false s.toList) ++ ['\''] := by
      simp [Printer.scalar, style]
    have other : (Style.single == Style.plain) = false := rfl
    rw [line_of_concat written (by decide), written, other]
    simpa using next_quoted inside line tokens indents allowed false
      (Printer.single false s.toList ++ ['\'']) forward (by simpa using reads)
  | double =>
    obtain ⟨after, forward, reads⟩ := Quoted.scanDouble_printed s.toList ('\n' :: indented column next)
      (show Gap.none.broken = false from rfl) [] (p := p.next) (Nat.succ_pos _)
    have written : Printer.scalar s = ('"' :: s.toList.flatMap Printer.escaped) ++ ['"'] := by
      simp [Printer.scalar, style]
    have other : (Style.double == Style.plain) = false := rfl
    rw [line_of_concat written (by decide), written, other]
    simpa using next_quoted inside line tokens indents allowed true
      (s.toList.flatMap Printer.escaped ++ ['"']) (Nat.le_of_eq forward.symm) (by simpa using reads)
  | literal =>
    rw [style] at spec
    obtain ⟨some', allows⟩ := spec
    simp only [Style.allowsLiteral, Bool.and_eq_true, Bool.not_eq_true'] at allows
    obtain ⟨printable, -⟩ := Style.printable_of_needsDouble allows.1
    have written : Printer.scalar s = '|' :: Printer.hints s.toList ++ '\n' :: Printer.literal true s.toList := by
      simp [Printer.scalar, style]
    -- The block ends its own line exactly when the text does, and `line` ends it otherwise.
    have ended : Printer.line s = '|' :: (Printer.hints s.toList ++ '\n' :: Block.body s.toList) := by
      have found : s.toList.getLast? = some (s.toList.getLast some') :=
        List.getLast?_eq_some_getLast some'
      have last : (Printer.scalar s).getLast? = some (s.toList.getLast some') := by
        rw [written, List.getLast?_append, List.getLast?_cons, Block.getLast?_literal some', found]
        rfl
      rw [Printer.line, last, written, Block.body, Block.endsLine, found]
      cases isBreak' : isBreak (s.toList.getLast some') <;> simp [isBreak']
    have other : (Style.literal == Style.plain) = false := rfl
    rw [ended, other]
    simpa using next_literal inside line tokens indents allowed printable some'

end Styles

end Scan

end CsiOperator.Yaml
