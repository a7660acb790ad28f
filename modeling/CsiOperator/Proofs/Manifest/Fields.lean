import CsiOperator.Decode.Source
import CsiOperator.Proofs.Json.Entries

/-! Named fields, what they give under a name, and what they are read as. -/

namespace CsiOperator.Manifest

open Decode

variable {α β : Type}

/-- What fields give under a name, in their order. -/
def given (fields : List (String × α)) (name : String) : List α :=
  (fields.filter (·.1 == name)).map (·.2)

/-- The fields that have none of some names. -/
def without (names : List String) (fields : List (String × α)) : List (String × α) :=
  fields.filter fun f => !names.contains f.1

/-- Each field by itself, and in their order, is read as a value. -/
def ReadAs (read : α → Read β) (fields : List (String × α)) (values : List (String × β)) : Prop :=
  (fields.map fun f => (f.1, read f.2)) = values.map fun v => (v.1, .ok v.2)

/-- The first field gives its value under its name. -/
theorem given_cons (name : String) (value : α) (rest : List (String × α)) (key : String) :
    given ((key, value) :: rest) name =
      if key = name then value :: given rest name else given rest name := by
  -- The field is kept by the filter exactly if it has the name.
  rw [given, List.filter_cons]
  split
  · rename_i same
    rw [if_pos (eq_of_beq same)]
    rfl
  · rename_i other
    rw [if_neg fun same => other (beq_iff_eq.mpr same)]
    rfl

/-- The first field is left out if its name is. -/
theorem without_cons (names : List String) (key : String) (value : α)
    (rest : List (String × α)) : without names ((key, value) :: rest) =
      if key ∈ names then without names rest else (key, value) :: without names rest := by
  -- The filter asks with a Boolean, which the two cases turn into membership.
  rw [without, List.filter_cons]
  by_cases member : key ∈ names
  · rw [if_pos member, if_neg (by simpa using member)]
    rfl
  · rw [if_neg member, if_pos (by simpa using member)]
    rfl

/-- A field before the others is read as a value before theirs. -/
theorem readAs_cons_iff {read : α → Read β} {name : String} {node : α} {rest : List (String × α)}
    {values : List (String × β)} : ReadAs read ((name, node) :: rest) values ↔
      ∃ value later, read node = .ok value ∧ ReadAs read rest later ∧
        values = (name, value) :: later := by
  -- Two lists are one only if they have a head and a rest that are.
  cases values with
  | nil => simp [ReadAs]
  | cons v later =>
    obtain ⟨key, value⟩ := v
    simp only [ReadAs, List.map_cons, List.cons.injEq, Prod.mk.injEq]
    constructor
    · rintro ⟨⟨rfl, reads⟩, others⟩
      exact ⟨value, later, reads, others, ⟨rfl, rfl⟩, rfl⟩
    · rintro ⟨_, _, reads, others, ⟨rfl, rfl⟩, rfl⟩
      exact ⟨⟨rfl, reads⟩, others⟩

/-- Only one of the fields with a name can be looked up, the last one. -/
theorem lookup_reverse (fields : List (String × α)) (name : String) :
    fields.reverse.lookup name = (given fields name).getLast? := by
  -- A field before the others is looked up only if none of them has the name.
  induction fields with
  | nil => rfl
  | cons field rest ih =>
    obtain ⟨key, value⟩ := field
    rw [List.reverse_cons, List.lookup_append, ih, Json.lookup_cons_eq, List.lookup_nil, given_cons]
    by_cases same : name = key
    · rw [if_pos same, if_pos same.symm, List.getLast?_cons]
      cases (given rest name).getLast? <;> rfl
    · rw [if_neg same, if_neg (Ne.symm same), Option.or_none]

/-- A name that is not left out gives what it gives. -/
theorem given_without {names : List String} {name : String} (other : name ∉ names)
    (fields : List (String × α)) : given (without names fields) name = given fields name := by
  -- Both filters let a field of that name pass.
  rw [given, given, without, List.filter_filter]
  refine congrArg (List.map _) (List.filter_congr fun f _ => ?_)
  by_cases same : f.1 = name
  · simp [same, other]
  · simp [same]

/-- A name that is left out gives nothing. -/
theorem given_without_mem {names : List String} {name : String} (member : name ∈ names)
    (fields : List (String × α)) : given (without names fields) name = [] := by
  -- A field would have to have the name and none of the names that are left out.
  rw [given, without, List.filter_filter, List.map_eq_nil_iff, List.filter_eq_nil_iff]
  intro f _ found
  obtain ⟨same, other⟩ := Bool.and_eq_true_iff.mp found
  obtain rfl := eq_of_beq same
  simp [member] at other

/-- What is done to all values is done to those that a name gives. -/
theorem given_map (f : α → β) (fields : List (String × α)) (name : String) :
    given (fields.map fun e => (e.1, f e.2)) name = (given fields name).map f := by
  -- The filter looks at the names alone, and these stay.
  rw [given, given, List.filter_map, List.map_map, List.map_map]
  rfl

/-- A field is read as a value wherever its name stands. -/
theorem ReadAs.given {read : α → Read β} {fields : List (String × α)} {values : List (String × β)}
    (reads : ReadAs read fields values) (name : String) :
    (Manifest.given fields name).map read = (Manifest.given values name).map .ok := by
  -- What is read and what has been read are the same list of fields.
  rw [← given_map, ← given_map]
  exact congrArg (Manifest.given · name) reads

/-- Fields that are left out are left out of the values. -/
theorem ReadAs.without {read : α → Read β} {fields : List (String × α)}
    {values : List (String × β)} (reads : ReadAs read fields values) (names : List String) :
    ReadAs read (Manifest.without names fields) (Manifest.without names values) := by
  -- The filter looks at the names alone, and these are the same on both sides.
  have left := congrArg (Manifest.without names) reads
  rw [Manifest.without, Manifest.without, List.filter_map, List.filter_map] at left
  exact left

/-- Fields each of which can be read are read together. -/
theorem exists_readAs {read : α → Read β} {fields : List (String × α)}
    (all : ∀ f ∈ fields, ∃ value, read f.2 = .ok value) : ∃ values, ReadAs read fields values := by
  -- The values are found one by one, in the order of the fields.
  induction fields with
  | nil => exact ⟨[], rfl⟩
  | cons field rest ih =>
    obtain ⟨⟨value, reads⟩, all⟩ := List.forall_mem_cons.mp all
    obtain ⟨values, others⟩ := ih all
    exact ⟨(field.1, value) :: values, readAs_cons_iff.mpr ⟨value, values, reads, others, rfl⟩⟩

/-- Every value has been read from a field of its name. -/
theorem ReadAs.of_mem {read : α → Read β} {fields : List (String × α)} {values : List (String × β)}
    (reads : ReadAs read fields values) {v : String × β} (member : v ∈ values) :
    ∃ f ∈ fields, f.1 = v.1 ∧ read f.2 = .ok v.2 := by
  -- Read fields and values are one list of outcomes, so the field is found in the same place.
  have listed : (v.1, (.ok v.2 : Read β)) ∈ fields.map fun f => (f.1, read f.2) :=
    reads ▸ List.mem_map.mpr ⟨v, member, rfl⟩
  obtain ⟨f, member, same⟩ := List.mem_map.mp listed
  obtain ⟨named, read⟩ := Prod.mk.inj same
  exact ⟨f, member, named, read⟩

/-- From every field a value of its name has been read. -/
theorem ReadAs.exists_of_mem {read : α → Read β} {fields : List (String × α)}
    {values : List (String × β)} (reads : ReadAs read fields values) {f : String × α}
    (member : f ∈ fields) : ∃ v ∈ values, v.1 = f.1 ∧ read f.2 = .ok v.2 := by
  -- Read fields and values are one list of outcomes, so the value is found in the same place.
  have listed : (f.1, read f.2) ∈ values.map fun v => (v.1, (.ok v.2 : Read β)) :=
    reads ▸ List.mem_map.mpr ⟨f, member, rfl⟩
  obtain ⟨v, member, same⟩ := List.mem_map.mp listed
  obtain ⟨named, read⟩ := Prod.mk.inj same
  exact ⟨v, member, named, read.symm⟩

/-- A field with none of some names is not left out. -/
theorem mem_without {names : List String} {fields : List (String × α)} {f : String × α} :
    f ∈ without names fields ↔ f ∈ fields ∧ f.1 ∉ names := by
  simp [without]

/-- What a field has is among what its name gives. -/
theorem mem_given {fields : List (String × α)} {f : String × α} (member : f ∈ fields) :
    f.2 ∈ given fields f.1 :=
  List.mem_map.mpr ⟨f, List.mem_filter.mpr ⟨member, beq_self_eq_true _⟩, rfl⟩

end CsiOperator.Manifest
