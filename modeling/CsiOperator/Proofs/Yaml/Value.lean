import CsiOperator.Decode.Yaml
import CsiOperator.Proofs.Failure
import CsiOperator.Proofs.Json.Entries

/-! What becomes of a value without a type as JSON. -/

namespace CsiOperator.Yaml.Value

open Failure (bind_ok_iff pure_ok_iff)

mutual

/-- All keys anywhere in a value are texts. -/
def Named : Value → Prop
  -- A scalar has no keys.
  | .list items => ItemsNamed items
  | .mapping entries => EntriesNamed entries
  | _ => True

/-- All keys anywhere in the items of a list are texts. -/
def ItemsNamed : List Value → Prop
  | [] => True
  | v :: rest => Named v ∧ ItemsNamed rest

/-- All keys of a map and anywhere in its values are texts. -/
def EntriesNamed : List (Value × Value) → Prop
  | [] => True
  | (key, value) :: rest => (∃ name, key = .text name) ∧ Named value ∧ EntriesNamed rest

end

mutual

/-- A JSON value tells the same as a value without a type. A number that is not finite has no JSON but
null, and of the entries of a map with one key the last one counts. -/
inductive Shows : Value → Json → Prop
  /-- The absent value. -/
  | null : Shows .null .null
  /-- A truth value. -/
  | bool (b : Bool) : Shows (.bool b) (.bool b)
  /-- A finite number. -/
  | number (n : Number) : Shows (.number n) (.number n)
  /-- A number that is not finite. -/
  | infinite : Shows .infinite .null
  /-- A text. -/
  | text (s : String) : Shows (.text s) (.text s)
  /-- A list, item by item. -/
  | list {items : List Value} {values : List Json} : ShowsItems items values →
    Shows (.list items) (.array values)
  /-- A map, name by name. -/
  | mapping {entries : List (Value × Value)} {pairs fields : List (String × Json)} :
    ShowsEntries entries pairs → (fields.map (·.1)).Nodup →
    (∀ name, fields.lookup name = pairs.reverse.lookup name) →
    Shows (.mapping entries) (.object fields)

/-- JSON values tell the same as the items of a list. -/
inductive ShowsItems : List Value → List Json → Prop
  /-- No items. -/
  | nil : ShowsItems [] []
  /-- An item before the others. -/
  | cons {v : Value} {json : Json} {rest : List Value} {later : List Json} : Shows v json →
    ShowsItems rest later → ShowsItems (v :: rest) (json :: later)

/-- Named JSON values tell the same as the entries of a map, in the order of the text. -/
inductive ShowsEntries : List (Value × Value) → List (String × Json) → Prop
  /-- No entries. -/
  | nil : ShowsEntries [] []
  /-- An entry before the others. -/
  | cons (name : String) {value : Value} {json : Json} {rest : List (Value × Value)}
    {later : List (String × Json)} : Shows value json → ShowsEntries rest later →
    ShowsEntries ((.text name, value) :: rest) ((name, json) :: later)

end

/-- An entry becomes JSON before the others if its key is a text. -/
theorem entriesToJson_cons_ok_iff {key value : Value} {rest : List (Value × Value)}
    {pairs : List (String × Json)} : entriesToJson ((key, value) :: rest) = .ok pairs ↔
      ∃ name json later, key = .text name ∧ value.toJson = .ok json ∧
        entriesToJson rest = .ok later ∧ pairs = (name, json) :: later := by
  -- Any key but a text is a fault before its value is looked at.
  cases key with
  | text s =>
    simp only [entriesToJson, Failure.ok_bind, bind_ok_iff, pure_ok_iff]
    constructor
    · rintro ⟨json, first, later, others, rfl⟩
      exact ⟨s, json, later, rfl, first, others, rfl⟩
    · rintro ⟨_, json, later, keyed, first, others, rfl⟩
      obtain rfl := text.inj keyed
      exact ⟨json, first, later, others, rfl⟩
  | _ => simp [entriesToJson, bind_ok_iff]

mutual

/-- A value becomes JSON that tells the same. -/
theorem shows_of_toJson : ∀ {v : Value} {json : Json}, v.toJson = .ok json → Shows v json
  | .null, _, made => Except.ok.inj made ▸ .null
  | .bool b, _, made => Except.ok.inj made ▸ .bool b
  | .number n, _, made => Except.ok.inj made ▸ .number n
  | .infinite, _, made => Except.ok.inj made ▸ .infinite
  | .text s, _, made => Except.ok.inj made ▸ .text s
  | .list items, json, made => by
    obtain ⟨values, items, rfl⟩ := by
      simpa only [toJson, bind_ok_iff, pure_ok_iff] using made
    exact .list (shows_of_itemsToJson items)
  | .mapping entries, json, made => by
    obtain ⟨pairs, entries, rfl⟩ := by
      simpa only [toJson, bind_ok_iff, pure_ok_iff] using made
    -- Sorting keeps the last value of every name.
    exact .mapping (shows_of_entriesToJson entries) (Json.sorted_sortEntries pairs).names
      fun name => Json.lookup_sortEntries name pairs

/-- The items of a list become JSON that tells the same. -/
theorem shows_of_itemsToJson : ∀ {items : List Value} {values : List Json},
    itemsToJson items = .ok values → ShowsItems items values
  | [], _, made => Except.ok.inj made ▸ .nil
  | v :: rest, _, made => by
    -- The first item becomes JSON before the others, and all of them have to.
    obtain ⟨json, first, later, others, rfl⟩ := by
      simpa only [itemsToJson, bind_ok_iff, pure_ok_iff] using made
    exact .cons (shows_of_toJson first) (shows_of_itemsToJson others)

/-- The entries of a map become JSON that tells the same. -/
theorem shows_of_entriesToJson : ∀ {entries : List (Value × Value)}
    {pairs : List (String × Json)}, entriesToJson entries = .ok pairs → ShowsEntries entries pairs
  | [], _, made => Except.ok.inj made ▸ .nil
  | (key, value) :: rest, _, made => by
    -- A key becomes a text, and its value becomes JSON before the other entries.
    obtain ⟨name, json, later, rfl, first, others, rfl⟩ := entriesToJson_cons_ok_iff.mp made
    exact .cons name (shows_of_toJson first) (shows_of_entriesToJson others)

end

mutual

/-- A value becomes JSON exactly when its keys are texts. -/
theorem toJson_ok_iff : ∀ v : Value, (∃ json, v.toJson = .ok json) ↔ v.Named
  | .null | .bool _ | .number _ | .infinite | .text _ => by simp [toJson, Named]
  | .list items => by
    -- A list has JSON as soon as all its items have.
    rw [Named, ← itemsToJson_ok_iff items]
    simp only [toJson, bind_ok_iff, pure_ok_iff]
    exact ⟨fun ⟨_, values, made, _⟩ => ⟨values, made⟩, fun ⟨values, made⟩ => ⟨_, values, made, rfl⟩⟩
  | .mapping entries => by
    rw [Named, ← entriesToJson_ok_iff entries]
    simp only [toJson, bind_ok_iff, pure_ok_iff]
    exact ⟨fun ⟨_, pairs, made, _⟩ => ⟨pairs, made⟩, fun ⟨pairs, made⟩ => ⟨_, pairs, made, rfl⟩⟩

/-- The items of a list become JSON exactly when their keys are texts. -/
theorem itemsToJson_ok_iff : ∀ items : List Value,
    (∃ values, itemsToJson items = .ok values) ↔ ItemsNamed items
  | [] => by simp [itemsToJson, ItemsNamed]
  | v :: rest => by
    -- The first item has JSON without regard to the others.
    rw [ItemsNamed, ← toJson_ok_iff v, ← itemsToJson_ok_iff rest]
    simp only [itemsToJson, bind_ok_iff, pure_ok_iff]
    constructor
    · rintro ⟨_, json, first, later, others, -⟩
      exact ⟨⟨json, first⟩, later, others⟩
    · rintro ⟨⟨json, first⟩, later, others⟩
      exact ⟨_, json, first, later, others, rfl⟩

/-- The entries of a map become JSON exactly when all their keys are texts. -/
theorem entriesToJson_ok_iff : ∀ entries : List (Value × Value),
    (∃ pairs, entriesToJson entries = .ok pairs) ↔ EntriesNamed entries
  | [] => by simp [entriesToJson, EntriesNamed]
  | (key, value) :: rest => by
    -- Each entry needs a text as its key and JSON for its value.
    rw [EntriesNamed, ← toJson_ok_iff value, ← entriesToJson_ok_iff rest]
    simp only [entriesToJson_cons_ok_iff]
    constructor
    · rintro ⟨_, name, json, later, keyed, first, others, -⟩
      exact ⟨⟨name, keyed⟩, ⟨json, first⟩, later, others⟩
    · rintro ⟨⟨name, keyed⟩, ⟨json, first⟩, later, others⟩
      exact ⟨_, name, json, later, keyed, first, others, rfl⟩

end

/-- Nothing but a text becomes a JSON text. -/
theorem toJson_eq_text_iff (v : Value) (s : String) : v.toJson = .ok (.text s) ↔ v = .text s := by
  -- What a JSON text tells is told by a text alone.
  constructor
  · intro made
    cases shows_of_toJson made
    rfl
  · rintro rfl
    rfl

end CsiOperator.Yaml.Value

namespace CsiOperator.Yaml

open Decode (Read untyped)
open Failure (bind_ok_iff)

variable {β : Type}

/-- A whole text is read when its document is, and nothing follows. -/
theorem decode_ok_iff (read : Tree → Read β) (text : String) (value : β) :
    decode read text = .ok value ↔ read (Tree.ofDocument (Document.ofText text)) = .ok value ∧
      (Document.ofText text).complete = true := by
  -- What follows the document is looked at only after it has been read.
  simp only [decode, bind_ok_iff]
  constructor
  · rintro ⟨found, reads, whole⟩
    split at whole
    · rename_i complete
      exact ⟨Except.ok.inj whole ▸ reads, complete⟩
    · cases whole
  · rintro ⟨reads, complete⟩
    exact ⟨value, reads, by rw [if_pos complete]⟩

/-- What a node is read as when its value is wanted as JSON. -/
theorem untyped_ok_iff (t : Tree) (outcome : Read Json) :
    untyped t = .ok outcome ↔ ∃ v, t.readUntyped = .ok v ∧ v.toJson = outcome := by
  -- Both ask for the untyped value, which then becomes JSON or does not.
  show t.readUntyped.map Value.toJson = .ok outcome ↔ _
  cases t.readUntyped <;> simp [Except.map]

end CsiOperator.Yaml
