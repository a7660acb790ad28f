import CsiOperator.Proofs.Json.Entries
import CsiOperator.Proofs.Json.Number
import CsiOperator.Proofs.Json.Quoted

/-! The compact text of a value is read as one document that breaks off nowhere. -/

namespace CsiOperator.Json

open Numeral (Closes)

/-- Whatever holds of a list or an object when it holds of its parts holds of every value. -/
theorem byParts {P : Json → Prop} (null : P .null) (bool : ∀ b, P (.bool b))
    (number : ∀ n, P (.number n)) (text : ∀ s, P (.text s))
    (array : ∀ items, (∀ item ∈ items, P item) → P (.array items))
    (object : ∀ entries, (∀ e ∈ entries, P e.2) → P (.object entries)) : ∀ json, P json
  | .null => null
  | .bool b => bool b
  | .number n => number n
  | .text s => text s
  | .array items => array items fun item member =>
    have := List.sizeOf_lt_of_mem member
    byParts null bool number text array object item
  | .object entries => object entries fun e member =>
    have := List.sizeOf_lt_of_mem member
    have : sizeOf e.2 < sizeOf e := by
      obtain ⟨key, value⟩ := e
      show sizeOf value < sizeOf (key, value)
      rw [Prod.mk.sizeOf_spec]
      omega
    byParts null bool number text array object e.2
termination_by json => sizeOf json
decreasing_by all_goals simp; omega

mutual

/-- What is read from the text of a value when so many more levels may be read. -/
def tree : Nat → Json → Tree
  -- Numbers are the only scalars that may be read as something else.
  | _, .null => .null
  | _, .bool b => .bool b
  | _, .number n => .number (reread n)
  | _, .text s => .text (some s)
  | 0, .array _ => .deep false
  | depth + 1, .array items => .array (treeItems depth items)
  | 0, .object _ => .deep false
  | depth + 1, .object entries =>
    .object ((sortEntries (treeEntries depth entries)).map fun (k, t) => (.text (some k), t))

/-- What is read of the items of a list. -/
def treeItems : Nat → List Json → List Tree
  | _, [] => []
  | depth, item :: rest => tree depth item :: treeItems depth rest

/-- What is read of the values of an object, with their keys. -/
def treeEntries : Nat → List (String × Json) → List (String × Tree)
  | _, [] => []
  | depth, (key, value) :: rest => (key, tree depth value) :: treeEntries depth rest

end

/-- Items are read one by one. -/
theorem treeItems_eq (depth : Nat) (items : List Json) :
    treeItems depth items = items.map (tree depth) := by
  -- By induction on the items, since the model goes through them by a function of its own.
  induction items with
  | nil => rfl
  | cons item rest ih => rw [treeItems, ih, List.map_cons]

/-- Entries are read one by one. -/
theorem treeEntries_eq (depth : Nat) (entries : List (String × Json)) :
    treeEntries depth entries = entries.map fun e => (e.1, e.2.tree depth) := by
  -- By induction on the entries, since the model goes through them by a function of its own.
  induction entries with
  | nil => rfl
  | cons entry rest ih => rw [treeEntries, ih, List.map_cons]

/-- The entries of an object are read in the order of their keys. -/
theorem tree_object (depth : Nat) (entries : List (String × Json)) :
    tree (depth + 1) (.object entries) =
      .object ((sortEntries entries).map fun e => (.text (some e.1), e.2.tree depth)) := by
  simp [tree, treeEntries_eq, sortEntries_map, Function.comp_def]

/-- Items are written one by one. -/
theorem compactItems_eq (items : List Json) : compactItems items = items.map compact := by
  -- By induction on the items, since the model goes through them by a function of its own.
  induction items with
  | nil => rfl
  | cons item rest ih => rw [compactItems, ih, List.map_cons]

/-- Entries are written one by one. -/
theorem compactEntries_eq (entries : List (String × Json)) :
    compactEntries entries = entries.map fun e => (e.1, e.2.compact) := by
  -- By induction on the entries, since the model goes through them by a function of its own.
  induction entries with
  | nil => rfl
  | cons entry rest ih => rw [compactEntries, ih, List.map_cons]

/-- The text of a value is read up to its end. -/
structure Reads (json : Json) : Prop where
  /-- The text begins with neither a blank nor a closing bracket. -/
  opens : ∃ c cs, json.compact.toList = c :: cs ∧ isSpace c = false ∧ c ≠ ']'
  /-- There is fuel enough when there is twice as much as text. -/
  reads : ∀ fuel depth rest, 2 * json.compact.toList.length ≤ fuel → Closes rest →
    value fuel depth (json.compact.toList ++ rest) = (json.tree depth, some rest)

/-- Nothing is dropped from a text that begins with no blank. -/
theorem dropSpace_cons {c : Char} (visible : isSpace c = false) (cs : List Char) :
    dropSpace (c :: cs) = c :: cs := by
  rw [dropSpace, List.dropWhile_cons, visible, if_neg (by simp)]

/-- No scalar begins with a blank or a bracket. -/
theorem scalar_opens {c : Char} {cs rest : List Char} {t : Tree}
    (reads : scalar (c :: cs) = some (t, rest)) :
    isSpace c = false ∧ c ≠ ']' ∧ c ≠ '[' ∧ c ≠ '\x7b' := by
  -- What begins no scalar is ruled out by trying it.
  have fails {d : Char} (none : scalar (d :: cs) = none) : c ≠ d := by
    rintro rfl
    rw [none] at reads
    cases reads
  have blank : c ≠ ' ' ∧ c ≠ '\n' ∧ c ≠ '\t' ∧ c ≠ '\r' :=
    ⟨fails rfl, fails rfl, fails rfl, fails rfl⟩
  exact ⟨by simp [isSpace, blank], fails rfl, fails rfl, fails rfl⟩

/-- A scalar is read up to its end. -/
theorem Reads.scalar {json : Json} (nonempty : json.compact.toList ≠ [])
    (reads : ∀ depth rest, Closes rest →
      scalar (json.compact.toList ++ rest) = some (json.tree depth, rest)) : json.Reads := by
  -- The first character of a scalar keeps the reader from taking it for a list or an object.
  obtain ⟨c, cs, text⟩ := List.exists_cons_of_ne_nil nonempty
  have alone := reads 0 [] .nil
  rw [List.append_nil, text] at alone
  obtain ⟨visible, closing, list, object⟩ := scalar_opens alone
  refine ⟨⟨c, cs, text, visible, closing⟩, fun fuel depth rest enough closes => ?_⟩
  -- Any text at all leaves fuel for one step, and a scalar needs no more.
  obtain ⟨fuel, rfl⟩ : ∃ k, fuel = k + 1 := ⟨fuel - 1, by simp [text] at enough; omega⟩
  have read := reads depth rest closes
  rw [text, List.cons_append] at read ⊢
  rw [value, dropSpace_cons visible]
  simp [list, object, read]

/-- The text of items between commas. -/
def joined (texts : List String) : List Char :=
  [','].intercalate (texts.map String.toList)

/-- A comma stands between an item and the next one. -/
theorem joined_cons (first second : String) (rest : List String) :
    joined (first :: second :: rest) = first.toList ++ ',' :: joined (second :: rest) := by
  simp [joined, List.intercalate_cons_cons]

/-- There is no comma after the last item. -/
theorem joined_singleton (text : String) : joined [text] = text.toList := by
  simp [joined]

/-- Items between commas are read up to the closing bracket. -/
theorem valueItems_joined {items : List Json} (each : ∀ item ∈ items, item.Reads)
    (nonempty : items ≠ []) (fuel depth : Nat) (rest : List Char)
    (enough : 2 * (joined (items.map compact)).length + 1 ≤ fuel) :
    valueItems fuel depth (joined (items.map compact) ++ ']' :: rest) =
      (treeItems depth items, some rest) := by
  -- The fuel goes down with each item, and the text becomes shorter by its characters.
  induction items generalizing fuel with
  | nil => exact absurd rfl nonempty
  | cons item later ih =>
    obtain ⟨first, others⟩ := List.forall_mem_cons.mp each
    obtain ⟨fuel, rfl⟩ : ∃ k, fuel = k + 1 := ⟨fuel - 1, by omega⟩
    cases later with
    -- The last item is closed by the bracket, which it does not reach.
    | nil =>
      simp only [List.map_cons, List.map_nil, joined_singleton] at enough ⊢
      rw [valueItems, first.reads fuel depth (']' :: rest) (by omega) (by simp [Closes])]
      simp [dropSpace_cons (c := ']') rfl, treeItems]
    | cons next later =>
      -- Behind the comma the rest is a list of its own, with less fuel and still enough of it.
      have last := ih others (by simp) fuel
      simp only [List.map_cons, joined_cons, List.length_append, List.length_cons] at enough last ⊢
      rw [List.append_assoc, List.cons_append, valueItems,
        first.reads fuel depth _ (by omega) (by simp [Closes])]
      simp [dropSpace_cons (c := ',') rfl, last (by omega), treeItems]

/-- A list is read up to its closing bracket. -/
theorem Reads.array {items : List Json} (each : ∀ item ∈ items, item.Reads) :
    (Json.array items).Reads := by
  -- One unit of fuel opens the list, and the items are read with what is left.
  have text : (compact (.array items)).toList = '[' :: (joined (items.map compact) ++ [']']) := by
    simp [compact, compactItems_eq, joined, String.toList_intercalate]
  refine ⟨⟨'[', _, text, rfl, by decide⟩, fun fuel depth rest enough _ => ?_⟩
  simp only [text, List.length_cons, List.length_append, List.length_nil] at enough ⊢
  obtain ⟨fuel, rfl⟩ : ∃ k, fuel = k + 1 := ⟨fuel - 1, by omega⟩
  rw [List.cons_append, List.append_assoc, value, dropSpace_cons rfl]
  -- An empty list ends at once, and any other one begins with its first item.
  cases items with
  | nil => cases depth <;> simp [joined, dropSpace_cons (c := ']') rfl, tree, treeItems]
  | cons item later =>
    have read := valueItems_joined each (by simp) fuel (depth - 1) rest (by omega)
    -- The bracket that would end the list at once is excluded, as no item begins with one.
    obtain ⟨c, cs, first, visible, notClosing⟩ := (each item List.mem_cons_self).opens
    obtain ⟨more, begins⟩ :
        ∃ more, joined ((item :: later).map compact) ++ ']' :: rest = c :: more := by
      cases later <;> simp [joined_singleton, joined_cons, first]
    rw [begins] at read
    simp only [List.singleton_append, begins, dropSpace_cons visible]
    cases depth with
    | zero =>
      rw [Nat.zero_sub] at read
      simp [notClosing, read, tree]
    | succ depth =>
      rw [Nat.add_sub_cancel] at read
      simp [notClosing, read, tree]

/-- The text of an entry. -/
def member (entry : String × Json) : String :=
  quote entry.1 ++ ":" ++ entry.2.compact

/-- The key of an entry is read, and then its value. -/
theorem member_toList (entry : String × Json) (rest : List Char) :
    (member entry).toList ++ rest =
      '"' :: (entry.1.toList.flatMap escapedChar ++ '"' :: ':' :: (entry.2.compact.toList ++ rest)) := by
  simp [member, quote]

/-- Entries between commas are read up to the closing brace. -/
theorem valueEntries_joined {entries : List (String × Json)} (each : ∀ e ∈ entries, e.2.Reads)
    (nonempty : entries ≠ []) (fuel depth : Nat) (rest : List Char)
    (enough : 2 * (joined (entries.map member)).length + 1 ≤ fuel) :
    valueEntries fuel depth (joined (entries.map member) ++ '\x7d' :: rest) =
      (entries.map fun e => (.text (some e.1), e.2.tree depth), some rest) := by
  -- As for the items; the key is a string that ends at its own quote.
  induction entries generalizing fuel with
  | nil => exact absurd rfl nonempty
  | cons entry later ih =>
    obtain ⟨first, others⟩ := List.forall_mem_cons.mp each
    obtain ⟨fuel, rfl⟩ : ∃ k, fuel = k + 1 := ⟨fuel - 1, by omega⟩
    -- The text of an entry is longer than that of its value, so the fuel is enough for the value.
    have short : entry.2.compact.toList.length ≤ (member entry).toList.length := by
      simp [member]
      omega
    cases later with
    | nil =>
      simp only [List.map_cons, List.map_nil, joined_singleton] at enough ⊢
      rw [member_toList, valueEntries, dropSpace_cons rfl]
      simp only [string_quoted, dropSpace_cons (c := ':') rfl]
      rw [first.reads fuel depth _ (by omega) (by simp [Closes])]
      simp [dropSpace_cons (c := '\x7d') rfl]
    | cons next later =>
      have last := ih others (by simp) fuel
      simp only [List.map_cons, joined_cons, List.length_append, List.length_cons] at enough last ⊢
      rw [List.append_assoc, List.cons_append, member_toList, valueEntries, dropSpace_cons rfl]
      simp only [string_quoted, dropSpace_cons (c := ':') rfl]
      rw [first.reads fuel depth _ (by omega) (by simp [Closes])]
      simp [dropSpace_cons (c := ',') rfl, last (by omega)]

/-- An object is read up to its closing brace, in the order of its keys. -/
theorem Reads.object {entries : List (String × Json)} (each : ∀ e ∈ entries, e.2.Reads) :
    (Json.object entries).Reads := by
  -- The entries are written in the order of their keys, so those are read in that order too.
  have text : (compact (.object entries)).toList =
      '\x7b' :: (joined ((sortEntries entries).map member) ++ ['\x7d']) := by
    simp [compact, compactEntries_eq, sortEntries_map, joined, String.toList_intercalate,
      Function.comp_def, member]
  have trees (depth : Nat) := tree_object depth entries
  -- What holds of every entry holds of the sorted ones, as sorting brings in nothing.
  have each : ∀ e ∈ sortEntries entries, e.2.Reads := fun e listed =>
    each e (mem_of_mem_sortEntries listed)
  refine ⟨⟨'\x7b', _, text, rfl, by decide⟩, fun fuel depth rest enough _ => ?_⟩
  simp only [text, List.length_cons, List.length_append, List.length_nil] at enough ⊢
  obtain ⟨fuel, rfl⟩ : ∃ k, fuel = k + 1 := ⟨fuel - 1, by omega⟩
  rw [List.cons_append, List.append_assoc, value, dropSpace_cons rfl]
  generalize sortEntries entries = sorted at *
  -- An empty object ends at once, and any other one begins with the quote of its first key.
  cases sorted with
  | nil =>
    cases depth with
    | zero => simp [joined, dropSpace_cons (c := '\x7d') rfl, tree]
    | succ depth => simp [joined, dropSpace_cons (c := '\x7d') rfl, trees]
  | cons entry later =>
    have read := valueEntries_joined each (by simp) fuel (depth - 1) rest (by omega)
    obtain ⟨more, begins⟩ :
        ∃ more, joined ((entry :: later).map member) ++ '\x7d' :: rest = '"' :: more := by
      cases later <;> simp [joined_singleton, joined_cons, member_toList]
    rw [begins] at read
    simp only [List.singleton_append, begins, dropSpace_cons (c := '"') rfl]
    cases depth with
    | zero =>
      rw [Nat.zero_sub] at read
      simp [read, tree]
    | succ depth =>
      rw [Nat.add_sub_cancel] at read
      simp [read, trees]

/-- Every value is read from its text. -/
theorem reads (json : Json) : json.Reads := by
  -- By the parts of a value: scalars by their own texts, lists and objects from those of their
  -- parts.
  induction json using byParts with
  | null =>
    exact .scalar (by decide) fun _ _ _ => rfl
  | bool b =>
    cases b
    · exact .scalar (by decide) fun _ _ _ => rfl
    · exact .scalar (by decide) fun _ _ _ => rfl
  | number n =>
    refine .scalar ?_ fun _ rest closes => scalar_text n closes
    obtain ⟨negative, m, chars⟩ := text_numeral n
    simp [compact, chars, Numeral.chars, m.wholeDigits.nonempty]
  | text s =>
    refine .scalar (by simp [compact, quote]) fun _ rest _ => ?_
    simp [compact, quote, scalar, string_quoted, tree]
  | array items each => exact .array each
  | object entries each => exact .object each

/-- The text of a value is one document, and nothing follows it. -/
theorem ofText_compact (json : Json) :
    Document.ofText json.compact = ⟨json.tree maxDepth, true⟩ := by
  -- Twice the length and two more is what a document is read with.
  have read := (reads json).reads (2 * json.compact.toList.length + 2) maxDepth [] (by omega)
    .nil
  rw [List.append_nil] at read
  rw [Document.ofText]
  simp [read, dropSpace]

end CsiOperator.Json
