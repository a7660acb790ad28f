import CsiOperator.Proofs.Yaml.Plain
import CsiOperator.Yaml.Token

/-! Scanning goes from one token to the next. -/

namespace CsiOperator.Yaml.Scan

/-- Goes on to the next token. -/
def arrive (s : Scan) : Option Scan :=
  -- A key may turn stale on the way, which can be a violation.
  let (keyAllowed, cursor) := toToken s.inFlow s.keyAllowed false s.cursor.place s.cursor.rest
  { s with keyAllowed, cursor }.dropStaleKeys

/-- Reads the token at which a scan has arrived, with the ends of collections before it. -/
def readToken (s : Scan) : Option Scan := do
  -- The token itself may leave a key behind, too.
  let s ← (s.unroll s.column).token
  s.dropStaleKeys

/-- A step goes on to the next token and reads it. -/
theorem step_eq (s : Scan) : s.step = s.arrive.bind readToken :=
  rfl

/-- A scan that has arrived at a token goes on to the next one. -/
inductive Next (s t : Scan) : Prop where
  /-- The token is read, and it is not the last one. -/
  | mk (mid : Scan) (reads : s.readToken = some mid) (more : mid.tokens.head? ≠ some .streamEnd)
    (arrives : mid.arrive = some t) (shorter : t.cursor.rest.length < s.cursor.rest.length)

/-- A scan that has arrived at a token arrives at another one later. -/
inductive Later : Scan → Scan → Prop where
  /-- It is there already. -/
  | here (s : Scan) : Later s s
  /-- It arrives there from the next token. -/
  | next {s t u : Scan} (first : Next s t) (rest : Later t u) : Later s u

/-- What comes later than something later comes later. -/
theorem Later.trans {s t u : Scan} (first : Later s t) (rest : Later t u) : Later s u := by
  -- By induction on the first series of tokens, behind which the other one stands.
  induction first with
  | here => exact rest
  | next step _ ih => exact .next step (ih rest)

/-- The next token comes later. -/
theorem Next.later {s t : Scan} (next : Next s t) : Later s t :=
  .next next (.here t)

/-- A run that comes to the last token gives all tokens. -/
theorem run_of_later {start s t done : Scan} {fuel : Nat} (arrives : start.arrive = some s)
    (later : Later s t) (reads : t.readToken = some done)
    (last : done.tokens.head? = some .streamEnd) (enough : s.cursor.rest.length < fuel) :
    run fuel start = done.tokens.reverse := by
  -- Each token takes one step and at least one character.
  induction later generalizing start fuel with
  | here s =>
    obtain ⟨fuel, rfl⟩ : ∃ n, fuel = n + 1 := ⟨fuel - 1, by omega⟩
    rw [run, step_eq, arrives, Option.bind_some, reads]
    simp [last]
  | next step _ ih =>
    obtain ⟨mid, readsFirst, more, arrivesNext, shorter⟩ := step
    obtain ⟨fuel, rfl⟩ : ∃ n, fuel = n + 1 := ⟨fuel - 1, by omega⟩
    rw [run, step_eq, arrives, Option.bind_some, readsFirst]
    dsimp only
    rw [if_neg (by simpa using more)]
    exact ih arrivesNext reads (by omega)

/-- Blanks are passed over. -/
theorem toToken_indented {next : List Char} (visible : StartsToken next) (keyAllowed : Bool)
    (p : Place) (column : Nat) :
    toToken false keyAllowed false p (indented column next) =
      (keyAllowed, ⟨p.skip column, next⟩) := by
  -- Induction on the blanks; at the end of them the next token is in sight.
  induction column generalizing p with
  | zero =>
    cases next with
    | nil => rfl
    | cons c rest =>
      obtain ⟨noGap, noComment, noMark⟩ := visible c rfl
      simp only [isGap, isBlank, Bool.or_eq_false_iff] at noGap
      simp [toToken, noGap, noComment, noMark]
  | succ column ih =>
    rw [Place.skip_succ, indented_succ, toToken, ← ih]
    simp [isBreak]

/-- So are the end of a line and the blanks of the next one, where a key may begin. -/
theorem toToken_newline {next : List Char} (visible : StartsToken next) (keyAllowed : Bool)
    (p : Place) (column : Nat) :
    toToken false keyAllowed false p ('\n' :: indented column next) =
      (true, ⟨p.newline.skip column, next⟩) := by
  -- After the break only blanks are left, which the lemma above passes over.
  rw [toToken, ← toToken_indented visible]
  simp [isBreak]

/-- A possible key that is not required may be given up, and is given up on a later line. -/
theorem dropStaleKeys_of_optional {s : Scan} {key : Option SimpleKey} (keys : s.keys = [key])
    (optional : ∀ k ∈ key, k.required = false) :
    ∃ key', s.dropStaleKeys = some { s with keys := [key'] } ∧ (∀ k ∈ key', k ∈ key) ∧
      ((∀ k ∈ key, k.place.line < s.cursor.place.line) → key' = none) := by
  -- A key goes stale when the line has changed, or when it is more than 1024 characters back.
  cases key with
  | none => exact ⟨none, by simp [dropStaleKeys, keys], by simp, fun _ => rfl⟩
  | some k =>
    have free : k.required = false := optional k rfl
    by_cases stale : k.place.line < s.cursor.place.line ∨ k.place.index + 1024 < s.cursor.place.index
    · refine ⟨none, ?_, by simp, fun _ => rfl⟩
      simp [dropStaleKeys, keys, free]
      omega
    · refine ⟨some k, ?_, by simp, fun later => absurd (.inl (later k rfl)) stale⟩
      simp [dropStaleKeys, keys, free]
      omega

/-- A possible key on the same line that is not too far back is kept. -/
theorem dropStaleKeys_of_near {s : Scan} {k : SimpleKey} (keys : s.keys = [some k])
    (line : s.cursor.place.line = k.place.line)
    (near : s.cursor.place.index ≤ k.place.index + 1024) : s.dropStaleKeys = some s := by
  -- Only the state's key and its place are asked about.
  cases s with
  | mk cursor tokens indent indents keys' keyAllowed =>
    obtain rfl : keys' = [some k] := keys
    dsimp only at line near
    simp [dropStaleKeys]
    omega

/-- After a token that no required key began, a scan arrives at the next token without a possible key,
if that one is on a later line than a possible key was. -/
theorem Next.of_optional {s : Scan} {cursor : Cursor} {token : Token} {tokens : List Token}
    {indent : Int} {indents : List Int} {key : Option SimpleKey} {after allowed : Bool} {q : Place}
    {next : List Char}
    (reads : (s.unroll s.column).token =
      some ⟨cursor, token :: tokens, indent, indents, [key], after⟩)
    (more : token ≠ .streamEnd)
    (optional : ∀ k ∈ key, k.required = false ∧ k.place.line < q.line)
    (arrives : toToken false after false cursor.place cursor.rest = (allowed, ⟨q, next⟩))
    (shorter : next.length < s.cursor.rest.length) :
    Next s ⟨⟨q, next⟩, token :: tokens, indent, indents, [none], allowed⟩ := by
  -- Keys are looked through twice: once with the token, and once more on the way to the next one.
  obtain ⟨key', drops, kept, -⟩ := dropStaleKeys_of_optional
    (s := ⟨cursor, token :: tokens, indent, indents, [key], after⟩) rfl fun k member =>
      (optional k member).1
  obtain ⟨key'', drops', -, gone⟩ := dropStaleKeys_of_optional
    (s := ⟨⟨q, next⟩, token :: tokens, indent, indents, [key'], allowed⟩) rfl fun k member =>
      (optional k (kept k member)).1
  obtain rfl := gone fun k member => (optional k (kept k member)).2
  -- The token has been read, it is not the last one, and the next one is in sight.
  refine ⟨⟨cursor, token :: tokens, indent, indents, [key'], after⟩, ?_, ?_, ?_, shorter⟩
  · rw [readToken, reads]
    exact drops
  · simpa using more
  · have free : (⟨cursor, token :: tokens, indent, indents, [key'], after⟩ : Scan).inFlow = false := rfl
    simp only [arrive, free, arrives]
    exact drops'

/-- After the name of a key, a scan arrives at the colon with the key in mind. -/
theorem Next.of_key {s : Scan} {p : Place} {rest : List Char} {token : Token} {tokens : List Token}
    {indent : Int} {indents : List Int} {key : SimpleKey}
    (reads : (s.unroll s.column).token =
      some ⟨⟨p, ':' :: rest⟩, token :: tokens, indent, indents, [some key], false⟩)
    (more : token ≠ .streamEnd) (line : p.line = key.place.line)
    (near : p.index ≤ key.place.index + 1024)
    (shorter : (':' :: rest).length < s.cursor.rest.length) :
    Next s ⟨⟨p, ':' :: rest⟩, token :: tokens, indent, indents, [some key], false⟩ := by
  -- The colon is near enough for the key to be kept, both times.
  have kept := dropStaleKeys_of_near
    (s := ⟨⟨p, ':' :: rest⟩, token :: tokens, indent, indents, [some key], false⟩) rfl line near
  have visible : StartsToken (':' :: rest) := by
    rintro c ⟨⟩
    decide
  refine ⟨⟨⟨p, ':' :: rest⟩, token :: tokens, indent, indents, [some key], false⟩, ?_,
    by simpa using more, ?_, shorter⟩
  · rw [readToken, reads]
    exact kept
  · have free : (⟨⟨p, ':' :: rest⟩, token :: tokens, indent, indents, [some key], false⟩ : Scan).inFlow =
        false := rfl
    have stays := toToken_indented visible false p 0
    simp only [indented_zero, Place.skip_zero] at stays
    simp only [arrive, free, stays]
    exact kept

/-- Where no collection begins to the right, none is ended. -/
theorem unroll_same {s : Scan} {column : Int} (inside : s.indent ≤ column) : s.unroll column = s := by
  -- Collections end only where the column is less than their indentation.
  cases s with
  | mk cursor tokens indent indents keys keyAllowed =>
    rw [unroll]
    split
    · rfl
    · cases indents with
      | nil => rfl
      | cons outer rest => simp [unrollTo, Int.not_lt.mpr inside]

/-- The mark of an item is read, with the list that may begin with it. -/
theorem next_item {s : Scan} {p : Place} {rest : List Char} {tokens tokens' : List Token}
    {indent indent' : Int} {indents indents' : List Int}
    (unrolled : s.unroll s.column = ⟨⟨p, '-' :: ' ' :: rest⟩, tokens, indent, indents, [none], true⟩)
    (rolled : (⟨⟨p, '-' :: ' ' :: rest⟩, tokens, indent, indents, [none], true⟩ : Scan).roll p.column
      tokens.length .blockSequenceStart =
        ⟨⟨p, '-' :: ' ' :: rest⟩, tokens', indent', indents', [none], true⟩)
    (visible : StartsToken rest) :
    Next s ⟨⟨p.skip 2, rest⟩, .blockEntry :: tokens', indent', indents', [none], true⟩ := by
  -- Ending collections moves nothing but the tokens and the indentation.
  have text : s.cursor.rest = '-' :: ' ' :: rest := by
    have same := congrArg (fun s => s.cursor.rest) unrolled
    rw [unroll] at same
    split at same <;> exact same
  -- A mark of a document would be three characters, and the second one here is a blank.
  have noBoundary : startsBoundary '-' ('-' :: ' ' :: rest) = false := by
    cases rest <;> simp [startsBoundary]
  have noEnd : startsBoundary '.' ('-' :: ' ' :: rest) = false := by
    cases rest <;> simp [startsBoundary]
  have reads : (s.unroll s.column).token = some ⟨⟨p.skip 1, ' ' :: rest⟩, .blockEntry :: tokens',
      indent', indents', [none], true⟩ := by
    rw [unrolled, token]
    simp [noBoundary, noEnd, endsWord, isGap, isBlank, blockEntry, inFlow, column, rolled]
    rfl
  refine Next.of_optional reads (by simp) (by simp) ?_ ?_
  · exact toToken_indented visible true (p.skip 1) 1
  · rw [text]
    exact Nat.lt_succ_of_lt (Nat.lt_succ_self _)

/-- Where a plain scalar may begin, and no item of a list, a plain scalar is read. -/
theorem token_plain {s : Scan} {c : Char} {rest : List Char} (text : s.cursor.rest = c :: rest)
    (inside : s.cursor.place.column ≠ 0) (block : s.inFlow = false)
    (starts : Plain.startsAt false (c :: rest) = true ∧ (c == '-' && endsWord rest) = false) :
    s.token = s.plainScalar := by
  -- The scanner tries its other tokens first, each by the first character.
  obtain ⟨starts, noItem⟩ := starts
  -- A plain scalar is what is left once all other tokens are ruled out.
  have later : (s.cursor.place.column == 0) = false := beq_eq_false_iff_ne.mpr inside
  rw [token, text]
  simp only [later, Bool.false_and, Bool.false_eq_true, if_false, block, Bool.false_or]
  -- Marks of all kinds would have to stand at the start.
  split
  case h_11 =>
    rw [noItem, starts]
    by_cases word : c = '?' ∨ c = ':'
    · have goesOn : endsWord rest = false := by
        rcases word with rfl | rfl <;> simpa [Plain.startsAt, isGap, isBlank, isBreak] using starts
      rcases word with rfl | rfl <;> simp [goesOn]
    · obtain ⟨noKey, noValue⟩ := not_or.mp word
      have noLines : c ≠ '|' ∧ c ≠ '>' := by
        constructor <;> rintro rfl <;> cases starts
      simp [noKey, noValue, noLines]
  all_goals cases starts

/-- The possible key that a token becomes where a key may begin. -/
def possibleKey (cursor : Cursor) (number : Nat) (indent : Int) (allowed : Bool) : Option SimpleKey :=
  if allowed then some ⟨number, indent == cursor.place.column, cursor.place⟩ else none

/-- Outside flow collections a token becomes a possible key where a key may begin. -/
theorem saveKey_block (cursor : Cursor) (tokens : List Token) (indent : Int) (indents : List Int)
    (allowed : Bool) :
    (⟨cursor, tokens, indent, indents, [none], allowed⟩ : Scan).saveKey =
      some ⟨cursor, tokens, indent, indents, [possibleKey cursor tokens.length indent allowed],
        allowed⟩ := by
  -- Without flow collections around it there is one place for a possible key, and it is free.
  cases allowed <;> rfl

/-- Outside flow collections a plain scalar is read as far as it goes. -/
theorem plainScalar_block {cursor : Cursor} {indent : Int} {r : Plain.Result}
    (reads : Plain.scan false indent false Gap.none [] cursor.place cursor.rest = some r)
    (tokens : List Token) (indents : List Int) (allowed : Bool) :
    (⟨cursor, tokens, indent, indents, [none], allowed⟩ : Scan).plainScalar =
      some ⟨r.cursor, .scalar (String.ofList r.text) true :: tokens, indent, indents,
        [possibleKey cursor tokens.length indent allowed], r.broken⟩ := by
  -- Outside of flow a key may be saved, and it stands for the scalar that follows.
  have block : (⟨cursor, tokens, indent, indents, [possibleKey cursor tokens.length indent allowed],
    allowed⟩ : Scan).inFlow = false := rfl
  rw [plainScalar, saveKey_block]
  simp only [Option.bind_eq_bind, Option.bind_some, block, reads]
  rfl

/-- The name of a field is a word of letters that is not too long for a key. -/
structure IsKey (name : List Char) : Prop where
  /-- There are only letters. -/
  letters : ∀ c ∈ name, c.isAlpha = true
  /-- There is a letter. -/
  nonempty : name ≠ []
  /-- The colon is near. -/
  short : name.length ≤ 1024

/-- The name of a field is read as a possible key. -/
theorem next_name {name : List Char} (key : IsKey name) {p : Place} (column : p.column = 2)
    {rest : List Char} (ends : endsWord rest = true) (tokens : List Token) {indent : Int}
    (inside : indent ≤ 2) (indents : List Int) :
    Next ⟨⟨p, name ++ ':' :: rest⟩, tokens, indent, indents, [none], true⟩
      ⟨⟨p.skip name.length, ':' :: rest⟩, .scalar (String.ofList name) true :: tokens, indent, indents,
        [some ⟨tokens.length, indent == 2, p⟩], false⟩ := by
  -- The name is a plain scalar, and it may turn out to be a key.
  obtain ⟨letters, nonempty, short⟩ := key
  have same : (⟨⟨p, name ++ ':' :: rest⟩, tokens, indent, indents, [none], true⟩ : Scan).unroll
      p.column = ⟨⟨p, name ++ ':' :: rest⟩, tokens, indent, indents, [none], true⟩ :=
    unroll_same (by simpa [column] using inside)
  have starts : ∃ c cs, name ++ ':' :: rest = c :: cs ∧ Plain.startsAt false (c :: cs) = true ∧
      (c == '-' && endsWord cs) = false := by
    cases name with
    | nil => exact absurd rfl nonempty
    | cons c cs =>
      have letter := letters c List.mem_cons_self
      exact ⟨c, cs ++ ':' :: rest, rfl, Plain.startsAt_append (isGap_of_isAlpha letter)
        (Plain.startsIndicator_of_isAlpha letter cs) (':' :: rest)⟩
  obtain ⟨c, cs, text, starts⟩ := starts
  -- A letter begins a plain scalar, and the colon behind the letters ends it.
  have reads := Plain.scan_letters letters ends indent [] p
  have required : possibleKey ⟨p, name ++ ':' :: rest⟩ tokens.length indent true =
      some ⟨tokens.length, indent == 2, p⟩ := by
    simp [possibleKey, column]
  refine Next.of_key ?_ (by simp) rfl (by simpa [Place.skip] using short) ?_
  · refine (congrArg token same).trans ?_
    rw [token_plain text (by simp [column]) rfl starts, plainScalar_block reads, required]
    rfl
  · have := List.length_pos_iff.mpr nonempty
    simp
    omega

/-- A colon after the name of a field makes a key of it, and begins a map with the first one. -/
theorem next_colon {p : Place} (column : 2 ≤ p.column) {rest : List Char}
    (ends : endsWord rest = true) (name : Token) (tokens : List Token) {indent : Int}
    (inside : indent ≤ 2) (indents : List Int) (required : Bool) {start : Place}
    (atStart : start.column = 2) {allowed : Bool} {q : Place} {next : List Char}
    (arrives : toToken false false false (p.skip 1) rest = (allowed, ⟨q, next⟩))
    (shorter : next.length ≤ rest.length) :
    Next ⟨⟨p, ':' :: rest⟩, name :: tokens, indent, indents,
        [some ⟨tokens.length, required, start⟩], false⟩
      ⟨⟨q, next⟩, .value :: name :: .key ::
          if indent < 2 then .blockMappingStart :: tokens else tokens,
        2, if indent < 2 then indent :: indents else indents, [none], allowed⟩ := by
  -- The colon turns the key that was saved into one, in front of its scalar.
  have reads : (⟨⟨p, ':' :: rest⟩, name :: tokens, indent, indents,
      [some ⟨tokens.length, required, start⟩], false⟩ : Scan).token =
      some ⟨⟨p.skip 1, rest⟩, .value :: name :: .key ::
          if indent < 2 then .blockMappingStart :: tokens else tokens,
        2, if indent < 2 then indent :: indents else indents, [none], false⟩ := by
    -- A colon begins no mark of a document.
    have noBoundary (mark : Char) (other : mark ≠ ':') :
        startsBoundary mark (':' :: rest) = false := by
      rcases rest with _ | ⟨a, _ | ⟨b, rest⟩⟩ <;> simp [startsBoundary, other.symm]
    -- The name stands at the end of the tokens, and the key is put before it.
    have before : (⟨⟨p, ':' :: rest⟩, name :: tokens, indent, indents,
        [some ⟨tokens.length, required, start⟩], false⟩ : Scan).insert tokens.length .key =
        ⟨⟨p, ':' :: rest⟩, name :: .key :: tokens, indent, indents,
          [some ⟨tokens.length, required, start⟩], false⟩ := by
      simp [insert]
    have rolled : (⟨⟨p, ':' :: rest⟩, name :: .key :: tokens, indent, indents,
        [some ⟨tokens.length, required, start⟩], false⟩ : Scan).roll 2 tokens.length
          .blockMappingStart =
        ⟨⟨p, ':' :: rest⟩, name :: .key :: if indent < 2 then .blockMappingStart :: tokens else tokens,
          2, if indent < 2 then indent :: indents else indents,
          [some ⟨tokens.length, required, start⟩], false⟩ := by
      by_cases outer : indent < 2
      · have left : ¬ 2 ≤ indent := by omega
        have two : tokens.length + 1 + 1 - tokens.length = 2 := by omega
        simp [roll, insert, inFlow, outer, left, two]
      · have same : indent = 2 := by omega
        simp [roll, same]
    rw [token]
    simp [noBoundary, ends, value, key?, inFlow, before, atStart, rolled]
    exact ⟨rfl, rfl, rfl, rfl⟩
  have same : (⟨⟨p, ':' :: rest⟩, name :: tokens, indent, indents,
      [some ⟨tokens.length, required, start⟩], false⟩ : Scan).unroll p.column = _ :=
    unroll_same (by
      show indent ≤ (p.column : Int)
      omega)
  exact Next.of_optional ((congrArg token same).trans reads) (by simp) (by simp) arrives
    (Nat.lt_succ_of_le shorter)

end CsiOperator.Yaml.Scan
