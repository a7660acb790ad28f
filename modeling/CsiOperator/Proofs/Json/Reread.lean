import CsiOperator.Decode.Json
import CsiOperator.Proofs.Failure
import CsiOperator.Proofs.Json.Text

/-! A value that has been read is read again from its own text, if its numbers are. -/

namespace CsiOperator.Json

open Decimal (Binary64)
open Decode
open Failure (bind_ok_iff pure_ok_iff)

/-- A tree that is read with so many more levels: no deeper, and its integers fit. -/
inductive Sound : Nat → Tree → Prop
  /-- The absent value. -/
  | null {depth : Nat} : Sound depth .null
  /-- A truth value. -/
  | bool {depth : Nat} (b : Bool) : Sound depth (.bool b)
  /-- A number. -/
  | number {depth : Nat} {value : Option Number} :
    (∀ n, value = some (.integer n) → Held n) → Sound depth (.number value)
  /-- A string. -/
  | text {depth : Nat} (value : Option String) : Sound depth (.text value)
  /-- A list, one level above its items. -/
  | array {depth : Nat} {items : List Tree} :
    (∀ t ∈ items, Sound depth t) → Sound (depth + 1) (.array items)
  /-- An object, one level above its values. -/
  | object {depth : Nat} {entries : List (Tree × Tree)} :
    (∀ e ∈ entries, Sound depth e.2) → Sound (depth + 1) (.object entries)
  /-- A list or object that is too deep. -/
  | deep {depth : Nat} (broken : Bool) : Sound depth (.deep broken)
  /-- The end of what can be read. -/
  | cut {depth : Nat} : Sound depth .cut

/-- Digits are read up to 64 bits. -/
theorem significand_fits {start : Nat} (fits : start < Decimal.wordBound 64) (cs : List Char) :
    (significand start cs).1 < Decimal.wordBound 64 := by
  -- Another digit is taken only if the number still fits with it.
  induction cs generalizing start with
  | nil => exact fits
  | cons c rest ih =>
    rw [significand]
    split
    · rename_i next
      exact ih (of_decide_eq_true next)
    · exact fits

/-- What is scaled is a double. -/
theorem scaled_real {negative : Bool} {digits : Nat} {exponent n : Int} :
    scaled negative digits exponent ≠ some (.integer n) := by
  -- The steps of the scaling are taken one after another until they return.
  unfold scaled
  -- Scaling ends in a double or in no number at all.
  cases Binary64.ofRatio negative digits 1 with
  | none => simp
  | some x => cases scale : scaled.descend negative x exponent 4 <;> simp [scale]

/-- An integer that is read fits. -/
theorem numberOf_held {negative : Bool} {whole : List Char} {fraction : Option (List Char)}
    {exponent : Option (Bool × List Char)} {n : Int}
    (reads : numberOf negative whole fraction exponent = some (.integer n)) : Held n := by
  -- A significand is below the bound of a word; the sign then decides which half it belongs to.
  have fits := significand_fits (by decide : 0 < Decimal.wordBound 64) whole
  have bound : Decimal.wordBound 63 < Decimal.wordBound 64 := by decide
  unfold numberOf at reads
  generalize significand 0 whole = front at *
  obtain ⟨front, dropped⟩ := front
  dsimp only at reads fits
  split at reads
  · -- Without a fraction and an exponent, digits that fit are an integer.
    split at reads
    · split at reads
      · obtain rfl : (front : Int) = n := by simpa using reads
        constructor <;> omega
      -- A negative number is an integer only where the signed word can hold it.
      · split at reads
        · cases converted : Binary64.ofRatio true front 1 <;> simp [converted] at reads
        · rename_i signed
          simp only [Bool.or_eq_true, Bool.not_eq_true', not_or, Bool.not_eq_false,
            Decimal.fitsSigned, Nat.reduceSub, Bool.and_eq_true, decide_eq_true_eq] at signed
          obtain rfl : -(front : Int) = n := by simpa using reads
          constructor <;> omega
    · exact absurd reads scaled_real
  -- With a fraction or an exponent the digits are scaled, which gives no integer.
  · split at reads
    · exact absurd reads scaled_real
    · split at reads
      · exact absurd reads scaled_real
      · split at reads <;> simp at reads

/-- A number is read from its parts. -/
theorem unsigned_numberOf {negative : Bool} {cs rest : List Char} {value : Option Number}
    (reads : unsigned negative cs = some (value, rest)) :
    ∃ whole fraction exponent, value = numberOf negative whole fraction exponent := by
  -- The scanner tries whole digits, a fraction and an exponent, and hands on what each has left.
  simp only [unsigned] at reads
  split at reads
  · cases reads
  · simp only [Option.bind_eq_bind, Option.bind_eq_some_iff, Option.pure_def, Option.some.injEq,
      Prod.mk.injEq] at reads
    obtain ⟨_, -, _, -, rfl, -⟩ := reads
    exact ⟨_, _, _, rfl⟩

/-- A scalar that is read is sound. -/
theorem scalar_sound {cs rest : List Char} {t : Tree} (reads : scalar cs = some (t, rest))
    (depth : Nat) : Sound depth t := by
  -- Numbers are the only scalars with a bound to keep.
  have number {negative : Bool} {cs : List Char} {found : Option Number × List Char}
      (reads : unsigned negative cs = some found) : Sound depth (.number found.1) := by
    obtain ⟨_, _, _, parts⟩ := unsigned_numberOf reads
    exact .number fun n same => numberOf_held (parts.symm.trans same)
  unfold scalar at reads
  split at reads
  case h_6 =>
    split at reads
    · obtain ⟨_, read, same⟩ := Option.map_eq_some_iff.mp reads
      obtain ⟨rfl, -⟩ := Prod.mk.inj same
      exact number read
    · cases reads
  case h_7 => cases reads
  all_goals
    obtain ⟨_, read, same⟩ := Option.map_eq_some_iff.mp reads
    obtain ⟨rfl, -⟩ := Prod.mk.inj same
  · exact .text _
  · exact number read
  · exact .bool true
  · exact .bool false
  · exact .null

/-- What is read is sound, whatever the text. -/
theorem value_sound (fuel : Nat) :
    (∀ depth cs, Sound depth (value fuel depth cs).1) ∧
      (∀ depth cs, ∀ t ∈ (valueItems fuel depth cs).1, Sound depth t) ∧
      ∀ depth cs, ∀ e ∈ (valueEntries fuel depth cs).1, Sound depth e.2 := by
  -- Every part is read with less fuel than the whole.
  induction fuel with
  | zero =>
    -- Without fuel everything is cut off, which is sound at any depth.
    refine ⟨fun _ _ => .cut, fun _ _ t member => ?_, fun _ _ e member => ?_⟩
    · obtain rfl := List.mem_singleton.mp member
      exact .cut
    · obtain rfl := List.mem_singleton.mp member
      exact .cut
  | succ fuel ih =>
    obtain ⟨value, items, entries⟩ := ih
    refine ⟨fun depth cs => ?_, fun depth cs => ?_, fun depth cs => ?_⟩
    · rw [Json.value]
      -- Brackets and braces are told apart from scalars, and at the last level their content is
      -- passed over.
      split
      · cases depth with
        | zero => exact .deep _
        | succ depth =>
          refine .array fun t member => ?_
          split at member
          · cases member
          · exact items _ _ t member
      · cases depth with
        | zero => exact .deep _
        | succ depth =>
          refine .object fun e member => ?_
          split at member
          · cases member
          · exact entries _ _ e member
      · split
        · rename_i read
          exact scalar_sound read depth
        · exact .cut
    -- The items go on with what the first one has left.
    · rw [valueItems]
      have first := value depth cs
      split
      · rename_i read
        rw [read] at first
        simpa using first
      · rename_i read
        rw [read] at first
        split
        · exact List.forall_mem_cons.mpr ⟨first, items _ _⟩
        · simpa using first
        · simpa using ⟨first, Sound.cut⟩
    -- An entry is cut off at its key, at its colon, or behind its value.
    · have cut : ∀ e ∈ [(Tree.cut, Tree.cut)], Sound depth e.2 := by simpa using Sound.cut
      rw [valueEntries]
      split
      · split
        · exact cut
        · split
          · rename_i key _ _ later _
            have first := value depth later
            split
            · rename_i read
              rw [read] at first
              simpa using first
            · rename_i read
              rw [read] at first
              split
              · exact List.forall_mem_cons.mpr ⟨first, entries _ _⟩
              · simpa using first
              · exact List.forall_mem_cons.mpr ⟨first, cut⟩
          · simpa using Sound.cut
      · exact cut

/-- Every document is sound. -/
theorem ofText_sound (text : String) : Sound maxDepth (Document.ofText text).root := by
  -- A document is read with twice its length and two more as fuel.
  have sound := (value_sound (2 * text.toList.length + 2)).1 maxDepth text.toList
  rw [Document.ofText]
  split
  all_goals
    rename_i read
    rwa [read] at sound

mutual

/-- The doubles in a value. -/
def reals : Json → List Binary64
  -- Keys are texts, so only values have doubles.
  | .number (.real x) => [x]
  | .array items => itemReals items
  | .object entries => entryReals entries
  | _ => []

/-- The doubles in the items of a list. -/
def itemReals : List Json → List Binary64
  | [] => []
  | item :: rest => item.reals ++ itemReals rest

/-- The doubles in the values of an object. -/
def entryReals : List (String × Json) → List Binary64
  | [] => []
  | (_, value) :: rest => value.reals ++ entryReals rest

end

/-- The doubles of an item are doubles of the list. -/
theorem mem_itemReals {x : Binary64} {items : List Json} :
    x ∈ itemReals items ↔ ∃ item ∈ items, x ∈ item.reals := by
  -- By induction on the items, whose doubles are put one after another.
  induction items with
  | nil => simp [itemReals]
  | cons item rest ih => simp [itemReals, ih]

/-- The doubles of a value are doubles of the object. -/
theorem mem_entryReals {x : Binary64} {entries : List (String × Json)} :
    x ∈ entryReals entries ↔ ∃ e ∈ entries, x ∈ e.2.reals := by
  -- By induction on the entries, whose doubles are put one after another.
  induction entries with
  | nil => simp [entryReals]
  | cons entry rest ih => simp [entryReals, ih]

/-- A whole text is read when its value is, and nothing follows. -/
theorem decode_compact {α : Type} (read : Tree → Read α) (json : Json) :
    decode read json.compact = read (json.tree maxDepth) := by
  -- The scanner's part is the lemma on written texts; what is left over is empty, so it is closed.
  rw [decode, ofText_compact]
  cases read (json.tree maxDepth) <;> rfl

/-- A double is read again from its text when that is what the text is read as. -/
theorem parse_real_iff (x : Binary64) :
    parse x.text = .ok (.number (.real x)) ↔ reread (.real x) = some (.real x) := by
  -- A number alone is its whole text, so the reading of the text is that of the number.
  rw [parse, show x.text = compact (.number (.real x)) from rfl, decode_compact, tree]
  cases reread (.real x) with
  | none => simp [Tree.readAny]
  | some n => simp [Tree.readAny]

/-- Every item has been read from a node. -/
theorem node_of_item {nodes : List Tree} {items : List Json}
    (reads : Tree.readAnyItems nodes = .ok items) :
    ∀ item ∈ items, ∃ t ∈ nodes, t.readAny = .ok item := by
  -- Nodes and items go side by side.
  induction nodes generalizing items with
  | nil =>
    obtain rfl : [] = items := by simpa [Tree.readAnyItems] using reads
    simp
  | cons t rest ih =>
    simp only [Tree.readAnyItems, bind_ok_iff, pure_ok_iff] at reads
    obtain ⟨item, first, later, others, rfl⟩ := reads
    refine List.forall_mem_cons.mpr ⟨⟨t, List.mem_cons_self, first⟩, fun item member => ?_⟩
    obtain ⟨t, listed, read⟩ := ih others item member
    exact ⟨t, List.mem_cons_of_mem _ listed, read⟩

/-- Every value of an object has been read from a node. -/
theorem node_of_entry {nodes : List (Tree × Tree)} {entries : List (String × Json)}
    (reads : Tree.readAnyEntries nodes = .ok entries) :
    ∀ e ∈ entries, ∃ t ∈ nodes, t.2.readAny = .ok e.2 := by
  -- By induction on the nodes, each of which gives one entry.
  induction nodes generalizing entries with
  | nil =>
    obtain rfl : [] = entries := by simpa [Tree.readAnyEntries] using reads
    simp
  | cons t rest ih =>
    simp only [Tree.readAnyEntries, bind_ok_iff, pure_ok_iff] at reads
    obtain ⟨key, -, value, first, later, others, rfl⟩ := reads
    refine List.forall_mem_cons.mpr ⟨⟨t, List.mem_cons_self, first⟩, fun e member => ?_⟩
    obtain ⟨t, listed, read⟩ := ih others e member
    exact ⟨t, List.mem_cons_of_mem _ listed, read⟩

/-- Items whose nodes are read as themselves are read as themselves. -/
theorem readAnyItems_map {depth : Nat} {items : List Json}
    (each : ∀ item ∈ items, (item.tree depth).readAny = .ok item) :
    Tree.readAnyItems (items.map (tree depth)) = .ok items := by
  -- By induction on the items, of which the first is read before the others.
  induction items with
  | nil => rfl
  | cons item rest ih =>
    obtain ⟨first, others⟩ := List.forall_mem_cons.mp each
    simp only [List.map_cons, Tree.readAnyItems, first, ih others]
    rfl

/-- Entries whose nodes are read as themselves are read as themselves. -/
theorem readAnyEntries_map {depth : Nat} {entries : List (String × Json)}
    (each : ∀ e ∈ entries, (e.2.tree depth).readAny = .ok e.2) :
    Tree.readAnyEntries (entries.map fun e => (.text (some e.1), e.2.tree depth)) = .ok entries := by
  -- By induction on the entries, whose keys are texts and are read as such.
  induction entries with
  | nil => rfl
  | cons entry rest ih =>
    obtain ⟨first, others⟩ := List.forall_mem_cons.mp each
    simp only [List.map_cons, Tree.readAnyEntries, Tree.readText, first, ih others]
    rfl

/-- A value that has been read is read again from its own text, if its doubles are. -/
theorem readAny_again {depth : Nat} {t : Tree} (sound : Sound depth t) {json : Json}
    (reads : t.readAny = .ok json)
    (exact : ∀ x ∈ json.reals, reread (.real x) = some (.real x)) :
    (json.tree depth).readAny = .ok json := by
  -- The parts of what has been read come from the parts of the tree.
  induction sound generalizing json with
  | null => cases reads; rfl
  | bool b => cases reads; rfl
  | number held =>
    rename_i value
    cases value with
    | none => cases reads
    | some n =>
      cases reads
      cases n with
      | integer n => simp [tree, reread_integer (held n rfl), Tree.readAny]
      | real x => simp [tree, exact x (by simp [reals]), Tree.readAny]
  | text value =>
    cases value with
    | none => cases reads
    | some s => cases reads; rfl
  | deep broken => cases reads
  | cut => cases reads
  | @array depth _ _ ih =>
    simp only [Tree.readAny, bind_ok_iff, pure_ok_iff] at reads
    obtain ⟨items, read, rfl⟩ := reads
    have again : ∀ item ∈ items, (item.tree depth).readAny = .ok item := by
      intro item member
      obtain ⟨t, listed, read⟩ := node_of_item read item member
      exact ih t listed read fun x real => exact x (mem_itemReals.mpr ⟨item, member, real⟩)
    simp only [tree, treeItems_eq, Tree.readAny, readAnyItems_map again]
    rfl
  | @object depth _ _ ih =>
    simp only [Tree.readAny, bind_ok_iff, pure_ok_iff] at reads
    obtain ⟨entries, read, rfl⟩ := reads
    -- What the object shows is sorted, and each of its values comes from a node all the same.
    have again : ∀ e ∈ sortEntries entries, (e.2.tree depth).readAny = .ok e.2 := by
      intro e member
      obtain ⟨t, listed, read⟩ := node_of_entry read e (mem_of_mem_sortEntries member)
      exact ih t listed read fun x real => exact x (mem_entryReals.mpr ⟨e, member, real⟩)
    have sorted := (sorted_sortEntries entries).sortEntries_eq
    simp only [tree_object, sorted, Tree.readAny, readAnyEntries_map again]
    exact congrArg (fun e => Except.ok (Json.object e)) sorted

/-- What is read from a text that has been written breaks off nowhere. -/
theorem tree_whole (json : Json) (depth : Nat) : (json.tree depth).isBroken = false := by
  -- A node breaks off only where a text ends too early, and no tree of a value holds such a node.
  induction json using byParts generalizing depth with
  | array items each =>
    cases depth with
    | zero => rfl
    | succ depth =>
      rw [tree, treeItems_eq, Tree.isBroken]
      induction items with
      | nil => rfl
      | cons item rest ih =>
        obtain ⟨first, others⟩ := List.forall_mem_cons.mp each
        simp [Tree.anyBroken, first depth, ih others]
  | object entries each =>
    cases depth with
    | zero => rfl
    | succ depth =>
      have each : ∀ e ∈ sortEntries entries, (e.2.tree depth).isBroken = false :=
        fun e member => each e (mem_of_mem_sortEntries member) depth
      rw [tree_object, Tree.isBroken]
      generalize sortEntries entries = sorted at each
      induction sorted with
      | nil => rfl
      | cons e rest ih =>
        obtain ⟨first, others⟩ := List.forall_mem_cons.mp each
        simp [Tree.anyEntryBroken, Tree.isBroken, first, ih others]
  | _ => cases depth <;> rfl

end CsiOperator.Json
