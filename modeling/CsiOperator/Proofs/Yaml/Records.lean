import CsiOperator.Proofs.Yaml.Scalar

/-! A list of maps is scanned as the tokens that stand for it. -/

namespace CsiOperator.Yaml

open Style (isPrintable)

/-- The token of a text. -/
def Token.ofText (s : String) : Token :=
  .scalar s (Style.of s == .plain)

namespace Written

/-- The tokens of what stands under a key. -/
def tokens : Written → List Token
  -- A list is indented like its key, so it has no token for its beginning or its end.
  | .text s => [.ofText s]
  | .texts items => items.flatMap fun s => [.blockEntry, .ofText s]

/-- The tokens of a key with its value. -/
def entryTokens (entry : String × Written) : List Token :=
  .key :: .scalar entry.1 true :: .value :: entry.2.tokens

/-- The tokens of a map as an item of a list. -/
def recordTokens (record : List (String × Written)) : List Token :=
  .blockEntry :: .blockMappingStart :: record.flatMap entryTokens ++ [.blockEnd]

/-- The tokens of a list of maps. -/
def recordsTokens (items : List (List (String × Written))) : List Token :=
  .blockSequenceStart :: items.flatMap recordTokens ++ [.blockEnd, .streamEnd]

/-- Keys that are words, with values that are there. -/
structure Sound (record : List (String × Written)) : Prop where
  /-- There is a key. -/
  nonempty : record ≠ []
  /-- The keys are words, and no list is empty. -/
  entries : ∀ e ∈ record, Scan.IsKey e.1.toList ∧ e.2 ≠ .texts []

end Written

namespace Scan

open Written (entryTokens recordTokens recordsTokens)

/-- The item of a list begins a line. -/
theorem lineStart_item {column : Nat} (shallow : column ≤ 2) (rest : List Char) :
    LineStart column ('-' :: rest) := by
  -- A hyphen is no blank, which is all that is asked besides the column.
  refine ⟨shallow, ?_⟩
  rintro c ⟨⟩
  decide

/-- A text of a list that is indented like its key is read after its mark. -/
theorem later_item {column : Nat} {next : List Char} (line : LineStart column next) (s : String)
    {p : Place} (margin : p.column = 2) (before : List Token) (indents : List Int) :
    ∃ q, q.column = column ∧
      Later ⟨⟨p, '-' :: ' ' :: (Printer.line s ++ indented column next)⟩, before, 2, indents, [none],
          true⟩
        ⟨⟨q, next⟩, .ofText s :: .blockEntry :: before, 2, indents, [none], true⟩ := by
  -- The item's mark is one token, and the scalar behind it another.
  have inside : 2 < (p.skip 2).column := by simp [Place.skip, margin]
  -- The mark and its blank take two places, so the text stands to the right of the map.
  obtain ⟨q, there, reads⟩ := next_text inside line (.blockEntry :: before) indents true s
  refine ⟨q, there, .next (next_item (unroll_same ?_) ?_ (startsToken_line s _)) reads.later⟩
  · simp [Scan.column, margin]
  · simp [roll, margin]

/-- The texts of a list that is indented like its key are read one after another. -/
theorem later_texts {column : Nat} {next : List Char} (line : LineStart column next)
    (first : String) (more : List String) {p : Place} (margin : p.column = 2) (before : List Token)
    (indents : List Int) :
    ∃ q, q.column = column ∧
      Later ⟨⟨p, '-' :: ' ' :: (Printer.line first ++
          (more.flatMap (fun s => [' ', ' ', '-', ' '] ++ Printer.line s) ++ indented column next))⟩,
        before, 2, indents, [none], true⟩
      ⟨⟨q, next⟩, (Written.tokens (.texts (first :: more))).reverse ++ before, 2, indents, [none],
        true⟩ := by
  -- Induction on the items behind the first one; the tokens before them only grow.
  induction more generalizing first p before with
  | nil =>
    obtain ⟨q, there, later⟩ := later_item line first margin before indents
    exact ⟨q, there, by simpa [Written.tokens] using later⟩
  | cons second more ih =>
    obtain ⟨rest, isRest⟩ : ∃ rest, rest = ' ' :: (Printer.line second ++
      (more.flatMap (fun s => [' ', ' ', '-', ' '] ++ Printer.line s) ++ indented column next)) :=
      ⟨_, rfl⟩
    -- The next item begins a line as well.
    obtain ⟨mid, margin', later⟩ :=
      later_item (lineStart_item (Nat.le_refl 2) rest) first margin before indents
    obtain ⟨q, there, later'⟩ := ih second margin' (.ofText first :: .blockEntry :: before)
    subst isRest
    have both := later.trans later'
    exact ⟨q, there, by simpa [Written.tokens] using both⟩

/-- A key is read up to what stands under it, and a map begins with the first one. -/
theorem later_key {name : String} (key : IsKey name.toList) {p : Place} (margin : p.column = 2)
    {rest : List Char} (ends : endsWord rest = true) (before : List Token) {indent : Int}
    (inside : indent ≤ 2) (indents : List Int) {allowed : Bool} {q : Place} {next : List Char}
    (arrives : toToken false false false ((p.skip name.toList.length).skip 1) rest =
      (allowed, ⟨q, next⟩)) (shorter : next.length ≤ rest.length) :
    Later ⟨⟨p, name.toList ++ ':' :: rest⟩, before, indent, indents, [none], true⟩
      ⟨⟨q, next⟩, .value :: .scalar name true :: .key ::
          (if indent < 2 then .blockMappingStart :: before else before),
        2, if indent < 2 then indent :: indents else indents, [none], allowed⟩ := by
  -- The colon stands where the name ends, which is right of the map's margin.
  have right : 2 ≤ (p.skip name.toList.length).column := by
    simp only [Place.skip]
    omega
  -- A key takes two tokens to be known as one: its name, and the colon that tells what the name
  -- was.
  have first := next_name key margin ends before inside indents
  rw [String.ofList_toList] at first
  exact .next first (next_colon right ends (.scalar name true) before inside indents _ margin arrives
    shorter).later

/-- A key is read with its value. -/
theorem later_entry {column : Nat} {next : List Char} (line : LineStart column next) {name : String}
    (key : IsKey name.toList) {value : Written} (there : value ≠ .texts []) {p : Place}
    (margin : p.column = 2) (before : List Token) {indent : Int} (inside : indent ≤ 2)
    (indents : List Int) :
    ∃ q, q.column = column ∧
      Later ⟨⟨p, Written.entry name value ++ indented column next⟩, before, indent, indents, [none],
          true⟩
        ⟨⟨q, next⟩, (entryTokens (name, value)).reverse ++
            (if indent < 2 then .blockMappingStart :: before else before),
          2, if indent < 2 then indent :: indents else indents, [none], true⟩ := by
  -- The value begins behind the colon, further to the right than the map.
  obtain ⟨after, isAfter⟩ : ∃ after, after = (p.skip name.toList.length).skip 1 := ⟨_, rfl⟩
  have right : 2 < after.column := by
    rw [isAfter]
    simp only [Place.skip]
    omega
  subst isAfter
  cases value with
  | text s =>
    -- The text stands on the line of the key.
    have arrives := toToken_indented (startsToken_line s (indented column next)) false
      ((p.skip name.toList.length).skip 1) 1
    have key' := later_key key margin rfl before inside indents arrives (by simp)
    have right' : 2 < (((p.skip name.toList.length).skip 1).skip 1).column := Nat.lt_succ_of_lt right
    obtain ⟨q, there, reads⟩ := next_text right' line _ _ false s
    refine ⟨q, there, ?_⟩
    have both := key'.trans reads.later
    simpa [Written.entry, entryTokens, Written.tokens, Token.ofText] using both
  | texts items =>
    -- The texts stand on lines of their own.
    obtain ⟨first, more, rfl⟩ := List.exists_cons_of_ne_nil (mt (congrArg Written.texts) there)
    have arrives := toToken_newline (lineStart_item (Nat.le_refl 2) (' ' :: (Printer.line first ++
      (more.flatMap (fun s => [' ', ' ', '-', ' '] ++ Printer.line s) ++
        indented column next)))).visible false ((p.skip name.toList.length).skip 1) 2
    have key' := later_key key margin rfl before inside indents arrives
      (by simp [indented])
    have margin' : (((p.skip name.toList.length).skip 1).newline.skip 2).column = 2 := rfl
    obtain ⟨q, there, later⟩ := later_texts line first more margin' _ _
    refine ⟨q, there, ?_⟩
    have both := key'.trans later
    simpa [Written.entry, entryTokens, Written.tokens, Token.ofText] using both

/-- A key begins a line of a map. -/
theorem lineStart_entry {column : Nat} (shallow : column ≤ 2) {name : String}
    (key : IsKey name.toList) (value : Written) (rest : List Char) :
    LineStart column (Written.entry name value ++ rest) := by
  -- A key has a first letter, and a letter begins a token.
  obtain ⟨c, cs, text⟩ := List.exists_cons_of_ne_nil key.nonempty
  have letter := key.letters c (by simp [text])
  have head : (Written.entry name value ++ rest).head? = some c := by
    cases value <;> simp [Written.entry, text]
  refine ⟨shallow, fun d member => ?_⟩
  rw [head] at member
  obtain rfl := Option.some.inj member
  exact ⟨isGap_of_isAlpha letter, ne_of_isAlpha letter (by decide),
    ne_of_isAlpha letter (by decide)⟩

/-- The keys of a map are read one after another, each with its value. -/
theorem later_entries {column : Nat} {next : List Char} (line : LineStart column next)
    (first : String × Written) (more : List (String × Written))
    (sound : ∀ e ∈ first :: more, IsKey e.1.toList ∧ e.2 ≠ .texts []) {p : Place}
    (margin : p.column = 2)
    (before : List Token) {indent : Int} (inside : indent ≤ 2) (indents : List Int) :
    ∃ q, q.column = column ∧
      Later ⟨⟨p, Written.entry first.1 first.2 ++
          ((more.flatMap fun e => [' ', ' '] ++ Written.entry e.1 e.2) ++ indented column next)⟩,
        before, indent, indents, [none], true⟩
      ⟨⟨q, next⟩, ((first :: more).flatMap entryTokens).reverse ++
          (if indent < 2 then .blockMappingStart :: before else before),
        2, if indent < 2 then indent :: indents else indents, [none], true⟩ := by
  -- Induction on the entries behind the first one. Only the first entry may open the map; at the
  -- others the indentation is that of the map already.
  induction more generalizing first p before indent indents with
  | nil =>
    obtain ⟨key, there⟩ := sound first List.mem_cons_self
    obtain ⟨q, at', later⟩ := later_entry line key there margin before inside indents
    exact ⟨q, at', by simpa using later⟩
  | cons second more ih =>
    obtain ⟨⟨key, there⟩, sound'⟩ := List.forall_mem_cons.mp sound
    obtain ⟨key', -⟩ := sound' second List.mem_cons_self
    obtain ⟨mid, margin', later⟩ := later_entry (lineStart_entry (Nat.le_refl 2) key' second.2 _)
      key there margin before inside indents
    obtain ⟨q, at', later'⟩ := ih second sound' margin' _ (Int.le_refl 2) _
    have both := later.trans later'
    refine ⟨q, at', ?_⟩
    simpa [indented_succ] using both

/-- A map that begins with the mark of an item is written in this way. -/
theorem record_cons (first : String × Written) (more : List (String × Written)) :
    Written.record (first :: more) = '-' :: ' ' :: (Written.entry first.1 first.2 ++
      more.flatMap fun e => [' ', ' '] ++ Written.entry e.1 e.2) := by
  simp [Written.record]

/-- A map is read after the mark of its item. -/
theorem later_record {next : List Char} (line : LineStart 0 next) {record : List (String × Written)}
    (sound : Written.Sound record) {p : Place} (margin : p.column = 0) {before base : List Token}
    {indent : Int} {indents : List Int}
    (opens : ∀ rest, StartsToken rest →
      Next ⟨⟨p, '-' :: ' ' :: rest⟩, before, indent, indents, [none], true⟩
        ⟨⟨p.skip 2, rest⟩, .blockEntry :: base, 0, [-1], [none], true⟩) :
    ∃ q after, q.column = 0 ∧ .blockEnd :: after = (recordTokens record).reverse ++ base ∧
      Later ⟨⟨p, Written.record record ++ next⟩, before, indent, indents, [none], true⟩
        ⟨⟨q, next⟩, after, 2, [0, -1], [none], true⟩ := by
  -- A map has a first entry, whose key is on the line of the item.
  obtain ⟨first, more, rfl⟩ := List.exists_cons_of_ne_nil sound.nonempty
  obtain ⟨key, -⟩ := sound.entries first List.mem_cons_self
  -- The mark of the item leaves the keys in the third column, whatever the mark itself has closed.
  have margin' : (p.skip 2).column = 2 := by simp [Place.skip, margin]
  obtain ⟨q, there, later⟩ := later_entries line first more sound.entries margin'
    (.blockEntry :: base) (by decide : (0 : Int) ≤ 2) [-1]
  have visible := (lineStart_entry (Nat.zero_le 2) key first.2
    ((more.flatMap fun e => [' ', ' '] ++ Written.entry e.1 e.2) ++ indented 0 next)).visible
  refine ⟨q, ((first :: more).flatMap entryTokens).reverse ++
    .blockMappingStart :: .blockEntry :: base, there, ?_, ?_⟩
  · simp [recordTokens]
  · have both := Later.next (opens _ visible) later
    simpa [record_cons] using both

/-- A new item ends the map of the one before it. -/
theorem next_opens {p : Place} (margin : p.column = 0) (after : List Token) (rest : List Char)
    (visible : StartsToken rest) :
    Next ⟨⟨p, '-' :: ' ' :: rest⟩, after, 2, [0, -1], [none], true⟩
      ⟨⟨p.skip 2, rest⟩, .blockEntry :: .blockEnd :: after, 0, [-1], [none], true⟩ := by
  -- The mark stands to the left of the open map, so that the map is closed before the item begins.
  have unrolled : (⟨⟨p, '-' :: ' ' :: rest⟩, after, 2, [0, -1], [none], true⟩ : Scan).unroll p.column =
      ⟨⟨p, '-' :: ' ' :: rest⟩, .blockEnd :: after, 0, [-1], [none], true⟩ := by
    simp [unroll, unrollTo, inFlow, margin]
  exact next_item unrolled (by simp [roll, margin]) visible

/-- The maps of a list are read one after another. -/
theorem later_records (first : List (String × Written)) (more : List (List (String × Written)))
    (sound : ∀ r ∈ first :: more, Written.Sound r) {p : Place} (margin : p.column = 0)
    {before base : List Token} {indent : Int} {indents : List Int}
    (opens : ∀ rest, StartsToken rest →
      Next ⟨⟨p, '-' :: ' ' :: rest⟩, before, indent, indents, [none], true⟩
        ⟨⟨p.skip 2, rest⟩, .blockEntry :: base, 0, [-1], [none], true⟩) :
    ∃ q after, q.column = 0 ∧
      .blockEnd :: after = ((first :: more).flatMap recordTokens).reverse ++ base ∧
      Later ⟨⟨p, Written.record first ++ more.flatMap Written.record⟩, before, indent, indents, [none],
          true⟩
        ⟨⟨q, []⟩, after, 2, [0, -1], [none], true⟩ := by
  -- Induction on the maps behind the first one. What the mark of an item closes differs between the
  -- first one and the others, which is what `opens` stands for.
  induction more generalizing first p before base indent indents with
  | nil =>
    have line : LineStart 0 [] := ⟨Nat.zero_le 2, by simp [StartsToken]⟩
    simpa using later_record line (sound first List.mem_cons_self) margin opens
  | cons second more ih =>
    obtain ⟨sound', others⟩ := List.forall_mem_cons.mp sound
    have line : LineStart 0 (Written.record second ++ more.flatMap Written.record) := by
      obtain ⟨e, es, rfl⟩ := List.exists_cons_of_ne_nil (others second List.mem_cons_self).nonempty
      rw [record_cons]
      exact lineStart_item (Nat.zero_le 2) _
    obtain ⟨mid, after, margin', tokens, later⟩ := later_record line sound' margin opens
    obtain ⟨q, last, there, tokens', later'⟩ := ih second others margin' (next_opens margin' after)
    refine ⟨q, last, there, ?_, ?_⟩
    · rw [tokens', tokens]
      simp
    · simpa using later.trans later'

/-- The end of the text ends the last map and the list. -/
theorem readToken_end {p : Place} (margin : p.column = 0) (after : List Token) :
    (⟨⟨p, []⟩, after, 2, [0, -1], [none], true⟩ : Scan).readToken =
      some ⟨⟨p, []⟩, .streamEnd :: .blockEnd :: .blockEnd :: after, -1, [], [none], true⟩ := by
  -- At the end of the text the place is back in the first column, to the left of the map.
  have unrolled : (⟨⟨p, []⟩, after, 2, [0, -1], [none], true⟩ : Scan).unroll p.column =
      ⟨⟨p, []⟩, .blockEnd :: after, 0, [-1], [none], true⟩ := by
    simp [unroll, unrollTo, inFlow, margin]
  -- The list itself is closed with the stream.
  have finished : (⟨⟨p, []⟩, .blockEnd :: after, 0, [-1], [none], true⟩ : Scan).token =
      some ⟨⟨p, []⟩, .streamEnd :: .blockEnd :: .blockEnd :: after, -1, [], [none], true⟩ := by
    simp [token, finish, margin, unroll, unrollTo, inFlow, removeKey, key?, push]
  rw [readToken]
  refine (congrArg (fun s : Scan => s.token.bind dropStaleKeys) unrolled).trans ?_
  rw [finished]
  rfl

end Scan

/-- What is written of an entry may be written. -/
theorem isPrintable_entry {name : String} (key : Scan.IsKey name.toList) (value : Written) :
    ∀ c ∈ Written.entry name value, isPrintable c = true := by
  -- A name is made of letters, which are printable.
  have letters : ∀ c ∈ name.toList, isPrintable c = true :=
    fun c member => isPrintable_of_isAlpha (key.letters c member)
  -- The texts of a value are printable whatever they hold, and the rest are blanks and marks.
  cases value with
  | text s =>
    exact List.forall_mem_append.mpr
      ⟨List.forall_mem_append.mpr ⟨letters, List.all_eq_true.mp rfl⟩, Scan.isPrintable_line s⟩
  | texts items =>
    refine List.forall_mem_append.mpr
      ⟨List.forall_mem_append.mpr ⟨letters, List.all_eq_true.mp rfl⟩, ?_⟩
    intro c member
    obtain ⟨s, -, written⟩ := List.mem_flatMap.mp member
    exact List.forall_mem_append.mpr ⟨List.all_eq_true.mp rfl, Scan.isPrintable_line s⟩ c written

/-- What is written of a map may be written. -/
theorem isPrintable_record {record : List (String × Written)} (sound : Written.Sound record) :
    ∀ c ∈ Written.record record, isPrintable c = true := by
  -- A map is written as its entries, with a mark in front of the first one.
  obtain ⟨first, more, rfl⟩ := List.exists_cons_of_ne_nil sound.nonempty
  have entries := fun e member => isPrintable_entry (sound.entries e member).1 e.2
  rw [Scan.record_cons]
  refine List.forall_mem_cons.mpr ⟨rfl, List.forall_mem_cons.mpr ⟨rfl,
    List.forall_mem_append.mpr ⟨entries first List.mem_cons_self, fun c member => ?_⟩⟩⟩
  obtain ⟨e, listed, written⟩ := List.mem_flatMap.mp member
  exact List.forall_mem_append.mpr
    ⟨List.all_eq_true.mp rfl, entries e (List.mem_cons_of_mem _ listed)⟩ c written

/-- A list of maps is scanned as the tokens that stand for it. -/
theorem tokens_records {items : List (List (String × Written))} (some' : items ≠ [])
    (sound : ∀ r ∈ items, Written.Sound r) :
    tokens (Written.records items) = Written.recordsTokens items := by
  -- A list that is not empty begins with a mark at the margin, and scanning goes on from map to
  -- map.
  obtain ⟨first, more, rfl⟩ := List.exists_cons_of_ne_nil some'
  obtain ⟨text, isText⟩ : ∃ text, text = (first :: more).flatMap Written.record := ⟨_, rfl⟩
  have printable : ∀ c ∈ text, isPrintable c = true := by
    intro c member
    rw [isText] at member
    obtain ⟨r, listed, written⟩ := List.mem_flatMap.mp member
    exact isPrintable_record (sound r listed) c written
  have allowed : text.all isAllowed = true :=
    List.all_eq_true.mpr fun c member => isAllowed_of_isPrintable (printable c member)
  have visible : StartsToken text := by
    obtain ⟨e, es, rfl⟩ := List.exists_cons_of_ne_nil (sound first List.mem_cons_self).nonempty
    rw [isText, List.flatMap_cons, Scan.record_cons]
    exact (Scan.lineStart_item (Nat.zero_le 2) _).visible
  have arrives : (Scan.start text).arrive = some (Scan.start text) := by
    have stays := Scan.toToken_indented visible true ⟨0, 0, 0⟩ 0
    simp only [indented_zero, Place.skip_zero] at stays
    have free : (Scan.start text).inFlow = false := rfl
    have from' : Scan.toToken false (Scan.start text).keyAllowed false (Scan.start text).cursor.place
        (Scan.start text).cursor.rest = (true, ⟨⟨0, 0, 0⟩, text⟩) := stays
    rw [Scan.arrive, free, from']
    rfl
  have opens : ∀ rest, StartsToken rest →
      Scan.Next ⟨⟨⟨0, 0, 0⟩, '-' :: ' ' :: rest⟩, [], -1, [], [none], true⟩
        ⟨⟨(Place.mk 0 0 0).skip 2, rest⟩, [.blockEntry, .blockSequenceStart], 0, [-1], [none],
          true⟩ :=
    fun rest visible => Scan.next_item rfl rfl visible
  obtain ⟨q, after, there, ended, later⟩ := Scan.later_records first more sound rfl opens
  rw [← List.flatMap_cons, ← isText] at later
  have all := Scan.run_of_later arrives later (Scan.readToken_end there after) rfl
    (Nat.lt_succ_self text.length)
  have written : (Written.records (first :: more)).toList = text := by
    rw [isText, Written.records, if_neg (by simp), String.toList_ofList]
  rw [tokens, written]
  simp only [allowed, if_true, normalizeBreaks_of_isPrintable printable, all]
  rw [ended, Written.recordsTokens]
  simp

end CsiOperator.Yaml
