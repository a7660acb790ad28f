import CsiOperator.Json.Basic

/-! Of sorted entries the last one with each key counts. -/

namespace CsiOperator.Json

variable {α : Type}

/-- The first entry with a key is found. -/
theorem lookup_cons_eq (name key : String) (value : α) (rest : List (String × α)) :
    ((key, value) :: rest).lookup name = if name = key then some value else rest.lookup name := by
  -- The library compares with a Boolean, which the two cases turn into the equation.
  rw [List.lookup_cons]
  by_cases same : name = key
  · simp [same]
  · simp [same, beq_eq_false_iff_ne.mpr same]

/-- An entry that is put in is found by its key, and the others are found as before. -/
theorem lookup_insertEntry (name key : String) (value : α) (entries : List (String × α)) :
    (insertEntry key value entries).lookup name =
      if name = key then some value else entries.lookup name := by
  -- By induction on the entries: the new one stands before, at or behind the first of them.
  induction entries with
  | nil => simp [insertEntry, lookup_cons_eq]
  | cons entry rest ih =>
    obtain ⟨k, v⟩ := entry
    simp only [insertEntry]
    split
    · simp only [lookup_cons_eq]
    · split
      · -- The entry takes the place of the one with its key.
        rename_i taken
        obtain rfl : key = k := by simpa using taken
        simp only [lookup_cons_eq]
        split <;> rfl
      · -- The first entry has another key, so that at most one of the two is looked for.
        rename_i other
        rw [lookup_cons_eq, ih, lookup_cons_eq]
        by_cases first : name = k
        · have apart : name ≠ key := fun same => other (by simp [← same, first])
          simp only [first, if_true]
          rw [if_neg (first ▸ apart)]
        · simp only [first, if_false]

/-- Sorted entries are found as the last ones with their keys. -/
theorem lookup_sortEntries (name : String) (entries : List (String × α)) :
    (sortEntries entries).lookup name = entries.reverse.lookup name := by
  -- Entries are put in one after another, and each of them counts before those put in earlier.
  have general : ∀ sorted : List (String × α),
      (entries.foldl (fun sorted e => insertEntry e.1 e.2 sorted) sorted).lookup name =
        (entries.reverse.lookup name).or (sorted.lookup name) := by
    induction entries with
    | nil => intro sorted; rfl
    | cons entry rest ih =>
      intro sorted
      rw [List.foldl_cons, ih, lookup_insertEntry, List.reverse_cons, List.lookup_append,
        Option.or_assoc, lookup_cons_eq]
      split <;> simp
  have whole : sortEntries entries =
      entries.foldl (fun sorted e => insertEntry e.1 e.2 sorted) [] := rfl
  rw [whole, general]
  simp

/-- What is done to the values alone may be done before or after an entry is put in. -/
theorem insertEntry_map {β : Type} (f : α → β) (key : String) (value : α)
    (entries : List (String × α)) :
    insertEntry key (f value) (entries.map fun e => (e.1, f e.2)) =
      (insertEntry key value entries).map fun e => (e.1, f e.2) := by
  -- Where the entry goes is settled by the keys alone.
  induction entries with
  | nil => rfl
  | cons entry rest ih =>
    simp only [List.map_cons, insertEntry]
    split
    · rfl
    · split
      · rfl
      · rw [ih, List.map_cons]

/-- Sorting puts entries in one after another. -/
theorem sortEntries_eq (entries : List (String × α)) : sortEntries entries =
    entries.foldl (fun sorted e => insertEntry e.1 e.2 sorted) [] := rfl

/-- What is done to the values alone may be done before or after sorting. -/
theorem sortEntries_map {β : Type} (f : α → β) (entries : List (String × α)) :
    sortEntries (entries.map fun e => (e.1, f e.2)) =
      (sortEntries entries).map fun e => (e.1, f e.2) := by
  -- Both sides put entries in one after another, so the map passes through each single insertion.
  rw [sortEntries_eq, sortEntries_eq, List.foldl_map]
  show entries.foldl _ (List.map (fun e : String × α => (e.1, f e.2)) []) = _
  exact List.foldl_hom _ fun sorted e => insertEntry_map f e.1 e.2 sorted

/-- Entries are the one that has been put in and those that there have been. -/
theorem mem_insertEntry {key : String} {value : α} {entries : List (String × α)}
    {entry : String × α} (member : entry ∈ insertEntry key value entries) :
    entry = (key, value) ∨ entry ∈ entries := by
  -- The new entry stands before the others, in the place of one of them, or behind the first one.
  induction entries with
  | nil => exact .inl (List.mem_singleton.mp member)
  | cons first rest ih =>
    simp only [insertEntry] at member
    split at member
    · exact List.mem_cons.mp member
    · split at member
      · rcases List.mem_cons.mp member with new | old
        · exact .inl new
        · exact .inr (List.mem_cons_of_mem _ old)
      · rcases List.mem_cons.mp member with same | later
        · exact .inr (same ▸ List.mem_cons_self)
        · exact (ih later).imp id (List.mem_cons_of_mem _)

/-- Sorting brings nothing in. -/
theorem mem_of_mem_sortEntries {entries : List (String × α)} {entry : String × α}
    (member : entry ∈ sortEntries entries) : entry ∈ entries := by
  -- Sorting is a fold, along which every entry of what is sorted so far is one of the given ones.
  have brought : ∀ e ∈ sortEntries entries, e ∈ entries := by
    -- Put in one after another, each new entry is one of those to be sorted.
    refine List.foldlRecOn (motive := fun sorted => ∀ e ∈ sorted, e ∈ entries) entries _ ?_ ?_
    · simp
    · intro sorted kept e listed new member
      rcases mem_insertEntry member with rfl | old
      · exact listed
      · exact kept new old
  exact brought entry member

/-- Entries in the order of their keys, no two of which are the same. -/
def Sorted (entries : List (String × α)) : Prop :=
  entries.Pairwise fun a b => a.1 < b.1

/-- Keys in order are distinct. -/
theorem Sorted.names {entries : List (String × α)} (sorted : Sorted entries) :
    (entries.map (·.1)).Nodup := by
  -- Of two keys in order the first is less, and no text is less than itself.
  rw [List.Nodup, List.pairwise_map]
  refine sorted.imp fun {a b} less same => ?_
  rw [same] at less
  exact String.lt_irrefl _ less

/-- An entry is put in where its key belongs. -/
theorem Sorted.insert {entries : List (String × α)} (sorted : Sorted entries) (key : String)
    (value : α) : Sorted (insertEntry key value entries) := by
  -- By induction on the entries, of which the first is the least.
  induction entries with
  | nil => exact List.pairwise_singleton _ _
  | cons first rest ih =>
    obtain ⟨least, later⟩ := List.pairwise_cons.mp sorted
    simp only [insertEntry]
    -- Before the first key it is before all of them.
    split
    · rename_i less
      refine .cons ?_ sorted
      intro entry member
      rcases List.mem_cons.mp member with rfl | member
      · exact less
      · exact String.lt_trans less (least entry member)
    · split
      -- In the place of the first entry it stands to the others as that one did.
      · rename_i same
        obtain rfl : key = first.1 := by simpa using same
        exact .cons least later
      -- Behind the first key; what follows is still behind it, the new entry included.
      · rename_i notLess other
        have greater : first.1 < key := by
          have other : key ≠ first.1 := by simpa using other
          exact Std.lt_of_le_of_ne (String.not_lt.mp notLess) other.symm
        refine .cons ?_ (ih later)
        intro entry member
        rcases mem_insertEntry member with rfl | member
        · exact greater
        · exact least entry member

/-- Sorting sorts. -/
theorem sorted_sortEntries (entries : List (String × α)) : Sorted (sortEntries entries) :=
  List.foldlRecOn entries _ .nil fun _ sorted e _ => sorted.insert e.1 e.2

/-- A key beyond all others is put in at the end. -/
theorem insertEntry_last {key : String} {entries : List (String × α)}
    (last : ∀ e ∈ entries, e.1 < key) (value : α) :
    insertEntry key value entries = entries ++ [(key, value)] := by
  -- By induction on the entries, past each of which the new one goes.
  induction entries with
  | nil => rfl
  | cons first rest ih =>
    obtain ⟨less, later⟩ := List.forall_mem_cons.mp last
    -- A greater key neither goes before the first one nor takes its place.
    have other : (key == first.1) = false := by
      rw [beq_eq_false_iff_ne]
      rintro rfl
      exact String.lt_irrefl _ less
    simp [insertEntry, String.lt_asymm less, other, ih later]

/-- What is sorted already stays as it is. -/
theorem Sorted.sortEntries_eq {entries : List (String × α)} (sorted : Sorted entries) :
    sortEntries entries = entries := by
  -- What has been put in so far is a prefix of the entries, so that each new one is the last.
  have general : ∀ front : List (String × α), Sorted (front ++ entries) →
      entries.foldl (fun sorted e => insertEntry e.1 e.2 sorted) front = front ++ entries := by
    clear sorted
    induction entries with
    | nil => exact fun front _ => (List.append_nil front).symm
    | cons first rest ih =>
      intro front sorted
      have last : ∀ e ∈ front, e.1 < first.1 := fun e member =>
        (List.pairwise_append.mp sorted).2.2 e member first List.mem_cons_self
      rw [List.append_cons] at sorted ⊢
      rw [List.foldl_cons, insertEntry_last last, ih _ sorted]
  exact general [] sorted

/-- Only an object has something under a name. -/
theorem object_of_get? {name : String} {json value : Json} (found : json.get? name = some value) :
    ∃ entries, json = .object entries ∧ entries.lookup name = some value := by
  -- No other value answers to any name.
  cases json with
  | object entries => exact ⟨entries, rfl, found⟩
  | _ => simp [get?] at found

end CsiOperator.Json
