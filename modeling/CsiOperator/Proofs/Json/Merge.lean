import CsiOperator.Json.Merge
import CsiOperator.Proofs.Decode.Field
import CsiOperator.Proofs.Decode.Written

/-! Merging a change into an object leaves one value under each name. -/

namespace CsiOperator.Json

open Failure (bind_ok_iff pure_ok_iff)

/-- Nowhere inside a value are there two entries of one name. -/
inductive Distinct : Json → Prop
  /-- There are no entries in null. -/
  | null : Distinct .null
  /-- There are none in a truth value. -/
  | bool (b : Bool) : Distinct (.bool b)
  /-- There are none in a number. -/
  | number (n : Number) : Distinct (.number n)
  /-- There are none in a text. -/
  | text (s : String) : Distinct (.text s)
  /-- There are none in the items of a list. -/
  | array {items : List Json} : (∀ item ∈ items, Distinct item) → Distinct (.array items)
  /-- The names of an object are distinct, and there are none in its values. -/
  | object {entries : List (String × Json)} : (entries.map (·.1)).Nodup →
    (∀ e ∈ entries, Distinct e.2) → Distinct (.object entries)

/-- An entry that is set is found by its name, and the others are found as before. -/
theorem lookup_setEntry (name key : String) (value : Json) (entries : List (String × Json)) :
    (setEntry key value entries).lookup name =
      if name = key then some value else entries.lookup name := by
  -- By induction on the entries: either the first one is replaced, or the rest is set.
  induction entries with
  | nil => simp [setEntry, lookup_cons_eq]
  | cons entry rest ih =>
    obtain ⟨k, v⟩ := entry
    simp only [setEntry]
    split
    · -- The entry takes the place of the one with its name.
      rename_i taken
      obtain rfl : k = key := by simpa using taken
      simp only [lookup_cons_eq]
      split <;> rfl
    · rename_i other
      have other : k ≠ key := by simpa using other
      rw [lookup_cons_eq, ih, lookup_cons_eq]
      by_cases first : name = k
      · rw [if_pos first, if_pos first, if_neg (first ▸ other)]
      · rw [if_neg first, if_neg first]

/-- Setting an entry brings in at most its own name. -/
theorem mem_setEntry {key : String} {value : Json} {entries : List (String × Json)}
    {entry : String × Json} (member : entry ∈ setEntry key value entries) :
    entry = (key, value) ∨ entry ∈ entries := by
  -- Either the entry takes the place of the first one with its name, or it goes behind all of them.
  induction entries with
  | nil => exact .inl (List.mem_singleton.mp member)
  | cons first rest ih =>
    obtain ⟨k, v⟩ := first
    simp only [setEntry] at member
    split at member
    · rcases List.mem_cons.mp member with new | old
      · exact .inl new
      · exact .inr (List.mem_cons_of_mem _ old)
    · rcases List.mem_cons.mp member with same | later
      · exact .inr (same ▸ List.mem_cons_self)
      · exact (ih later).imp id (List.mem_cons_of_mem _)

/-- Setting an entry keeps names distinct. -/
theorem nodup_setEntry (key : String) (value : Json) {entries : List (String × Json)}
    (distinct : (entries.map (·.1)).Nodup) :
    ((setEntry key value entries).map (·.1)).Nodup := by
  -- By induction on the entries; the first key stays, whether its value is replaced or not.
  induction entries with
  | nil => simp [setEntry]
  | cons first rest ih =>
    obtain ⟨k, v⟩ := first
    obtain ⟨fresh, others⟩ := List.nodup_cons.mp distinct
    simp only [setEntry]
    split
    -- Taking a place leaves the names as they were.
    · rename_i taken
      obtain rfl : k = key := by simpa using taken
      exact distinct
    · -- The first name stays, and what is set later has another one.
      rename_i other
      refine List.nodup_cons.mpr ⟨fun again => ?_, ih others⟩
      obtain ⟨e, member, same⟩ := List.mem_map.mp again
      rcases mem_setEntry member with rfl | old
      · exact absurd same.symm (by simpa using other)
      · exact fresh (List.mem_map.mpr ⟨e, old, same⟩)

/-- An object with one more entry is still distinct. -/
theorem Distinct.setEntry {entries : List (String × Json)} (distinct : Distinct (.object entries))
    (key : String) {value : Json} (sound : value.Distinct) :
    Distinct (.object (setEntry key value entries)) := by
  -- Only an object can have the entries, so its two parts are at hand.
  cases distinct with
  | object names values =>
    -- The names are those of the lemma above, and the values are the new one and the old ones.
    refine .object (nodup_setEntry key value names) fun e member => ?_
    rcases mem_setEntry member with rfl | old
    · exact sound
    · exact values e old

/-- What is found in an object is distinct. -/
theorem Distinct.of_lookup {entries : List (String × Json)} (distinct : Distinct (.object entries))
    {name : String} {value : Json} (found : entries.lookup name = some value) : value.Distinct := by
  -- Only an object can have the entries, and what is found is one of them.
  cases distinct with
  | object names values => exact values _ (Decode.mem_of_lookup found)

/-- What entries with distinct names show is what is found among them. -/
theorem shown_of_nodup {entries : List (String × Json)} (names : (entries.map (·.1)).Nodup)
    (name : String) : Decode.shown entries name = entries.lookup name := by
  -- The last entry with a name is the only one.
  rw [Decode.shown, lookup_sortEntries]
  induction entries with
  | nil => rfl
  | cons entry rest ih =>
    obtain ⟨key, value⟩ := entry
    obtain ⟨fresh, names⟩ := List.nodup_cons.mp names
    rw [List.reverse_cons, List.lookup_append, ih names, lookup_cons_eq, lookup_cons_eq,
      List.lookup_nil]
    by_cases same : name = key
    · rw [same, Decode.lookup_absent fresh, if_pos rfl]
      rfl
    · rw [if_neg same, if_neg same, Option.or_none]

/-- What a distinct object shows is what is found in it. -/
theorem Distinct.shown_eq {entries : List (String × Json)} (distinct : Distinct (.object entries))
    (name : String) : Decode.shown entries name = entries.lookup name := by
  -- With distinct names the last entry of a name is also the first.
  cases distinct with
  | object names _ => exact shown_of_nodup names name

/-- The entries of the object that a change is merged into; anything else counts as empty. -/
def base (target : Option Json) : List (String × Json) :=
  (target.bind entries?).getD []

/-- A change to one entry sets that entry. -/
theorem merge_single (target : Option Json) (key : String) {change : Json} (there : change ≠ .null) :
    merge target (.object [(key, change)]) =
      .object (setEntry key (merge ((base target).lookup key) change) (base target)) := by
  -- Only `null` removes an entry, and every other change is one entry that is merged.
  cases change with
  | null => exact absurd rfl there
  | _ => rfl

/-- The base of something distinct is distinct. -/
theorem Distinct.base {target : Option Json} (distinct : ∀ json ∈ target, json.Distinct) :
    Distinct (.object (base target)) := by
  -- Where there is no object to merge into, the base has no entries at all.
  have none : Distinct (.object []) := .object (by simp) (by simp)
  cases target with
  | none => exact none
  | some json =>
    cases json with
    | object entries => exact distinct _ rfl
    | _ => exact none

/-- The names of what is there of a record are among those of its fields. -/
theorem names_record (written : List (String × Option Json)) :
    ((written.filterMap fun (key, value) => value.map (key, ·)).map (·.1)).Sublist
      (written.map (·.1)) := by
  -- Fields that are absent leave their names out, and the others keep their order.
  induction written with
  | nil => exact .slnil
  | cons field rest ih =>
    obtain ⟨key, value⟩ := field
    cases value with
    | none => exact ih.cons key
    | some json => exact ih.cons_cons key

/-- A record has under a name what is there of the field of that name. -/
theorem get?_record {written : List (String × Option Json)}
    (distinct : (written.map (·.1)).Nodup) (name : String) :
    (record written).get? name = (written.lookup name).join := by
  -- What the record shows is what is found in it, as its names are distinct.
  rw [← Decode.shown_record distinct, shown_of_nodup ((names_record written).nodup distinct)]
  rfl

/-- A record of distinct values under distinct names is distinct. -/
theorem distinct_record {written : List (String × Option Json)}
    (names : (written.map (·.1)).Nodup)
    (values : ∀ field ∈ written, ∀ json ∈ field.2, json.Distinct) : (record written).Distinct := by
  -- The entries of a record are those that are given, without the ones that are left out.
  refine .object ((names_record written).nodup names) fun e member => ?_
  obtain ⟨⟨key, value⟩, listed, there⟩ := List.mem_filterMap.mp member
  obtain ⟨json, held, rfl⟩ := Option.map_eq_some_iff.mp there
  exact values _ listed json held

end CsiOperator.Json
