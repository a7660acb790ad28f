import CsiOperator.Proofs.Decode.Record
import CsiOperator.Proofs.Json.Reread
import CsiOperator.Proofs.Time.Timestamp
import CsiOperator.Decode.Instant

/-! What is read of an object that has been written. -/

namespace CsiOperator.Decode

open Failure (bind_ok_iff pure_ok_iff)
open Json (Sound Tree sortEntries)

variable {σ β : Type}

/-- What an object shows under a name. -/
def shown (entries : List (String × Json)) (name : String) : Option Json :=
  (sortEntries entries).lookup name

/-- A written record shows what is there of its fields. -/
theorem shown_record {written : List (String × Option Json)}
    (distinct : (written.map (·.1)).Nodup) (name : String) :
    shown (written.filterMap fun (key, value) => value.map (key, ·)) name =
      (written.lookup name).join := by
  -- What is shown does not depend on the order of the entries.
  rw [shown, Json.lookup_sortEntries]
  -- Induction on the fields: those that are absent leave no entry, and a name comes once only.
  induction written with
  | nil => rfl
  | cons field rest ih =>
    obtain ⟨key, value⟩ := field
    obtain ⟨fresh, others⟩ := List.nodup_cons.mp distinct
    have absent : name = key → rest.lookup name = none := by
      rintro rfl
      exact lookup_absent fresh
    rw [Json.lookup_cons_eq]
    cases value with
    | none =>
      rw [List.filterMap_cons_none rfl, ih others]
      split
      · rename_i same
        rw [absent same]
        rfl
      · rfl
    | some json =>
      show ((key, json) :: rest.filterMap _).reverse.lookup name = _
      rw [List.reverse_cons, List.lookup_append, ih others, Json.lookup_cons_eq, List.lookup_nil]
      split
      · rename_i same
        rw [absent same]
        rfl
      · simp

/-- Keys stand for themselves. -/
theorem spells_text : Spells fun name => Tree.text (some name) :=
  fun _ => rfl

/-- The entries of an object have names of their own once they are sorted. -/
theorem distinct_sorted (entries : List (String × Json)) (depth : Nat) :
    (((sortEntries entries).map fun e => (e.1, e.2.tree depth)).map (·.1)).Nodup := by
  -- The names are those of the entries, which sorting has made distinct.
  rw [List.map_map]
  exact (Json.sorted_sortEntries entries).names

/-- What is written can be passed over. -/
theorem skip_tree (json : Json) (depth : Nat) : skip (json.tree depth) = .ok () :=
  if_neg (by simp [Json.tree_whole])

/-- A structured value is read from what the object shows under the names of the fields. -/
theorem Lawful.record_tree_ok_iff {fields : List (Field Tree σ)} (lawful : Lawful fields)
    (entries : List (String × Json)) (depth : Nat) {empty : σ}
    (blank : ∀ f ∈ fields, f.given empty = false) (done : σ) :
    record fields empty ((Json.object entries).tree (depth + 1)) = .ok done ↔
      (∀ f ∈ fields, f.absence = .never → (shown entries f.name).isSome = true) ∧
        fill (byName fields) empty (fun name => (shown entries name).map (Json.tree depth)) =
          .ok done := by
  -- The entries of the tree are read by their names, each of which stands once.
  have named := lawful.readNamed_ok_iff spells_text (distinct_sorted entries depth) empty done
    fun _ _ f member _ => blank f member
  rw [List.map_map] at named
  -- A field finds the tree of what the object shows under its name.
  have found : (((sortEntries entries).map fun e => (e.1, e.2.tree depth)).lookup ·) =
      fun name => (shown entries name).map (Json.tree depth) :=
    funext fun name => lookup_map (Json.tree depth) _ name
  rw [Json.tree_object]
  refine named.trans ?_
  rw [found]
  constructor
  · rintro ⟨-, there, filled⟩
    refine ⟨fun f member never => ?_, filled⟩
    have given := (there f member never).resolve_left (by simp [blank f member])
    rwa [lookup_map, Option.isSome_map] at given
  · rintro ⟨there, filled⟩
    refine ⟨fun p member _ => ?_, fun f member never => .inr ?_, filled⟩
    -- Entries of other names are passed over, and whatever has been written can be.
    · obtain ⟨e, -, rfl⟩ := List.mem_map.mp member
      exact skip_tree e.2 depth
    · rw [lookup_map, Option.isSome_map]
      exact there f member never

/-- A structured value with optional parts is read from what the object shows under their names. -/
theorem Independent.latest_tree_ok_iff {fields : List (String × (σ → Tree → Read σ))}
    (independent : Independent fields) (entries : List (String × Json)) (depth : Nat)
    (empty done : σ) :
    latest fields empty ((Json.object entries).tree (depth + 1)) = .ok done ↔
      fill fields empty (fun name => (shown entries name).map (Json.tree depth)) = .ok done := by
  -- The entries of the tree are read by their names, each of which stands once.
  have named := independent.readLatest_ok_iff spells_text (distinct_sorted entries depth) empty done
  rw [List.map_map] at named
  have found : (((sortEntries entries).map fun e => (e.1, e.2.tree depth)).lookup ·) =
      fun name => (shown entries name).map (Json.tree depth) :=
    funext fun name => lookup_map (Json.tree depth) _ name
  rw [Json.tree_object]
  refine named.trans ?_
  rw [found]
  refine ⟨fun ⟨_, filled⟩ => filled, fun filled => ⟨fun p member _ => ?_, filled⟩⟩
  obtain ⟨e, -, rfl⟩ := List.mem_map.mp member
  exact skip_tree e.2 depth

/-- A structured value is read from what is there of the fields of a record. -/
theorem Lawful.record_ok_iff {fields : List (Field Tree σ)} (lawful : Lawful fields)
    {written : List (String × Option Json)} (distinct : (written.map (·.1)).Nodup) (depth : Nat)
    {empty : σ} (blank : ∀ f ∈ fields, f.given empty = false) (done : σ) :
    record fields empty ((Json.record written).tree (depth + 1)) = .ok done ↔
      (∀ f ∈ fields, f.absence = .never → (written.lookup f.name).join.isSome = true) ∧
        fill (byName fields) empty
          (fun name => (written.lookup name).join.map (Json.tree depth)) = .ok done := by
  -- What is shown under the name of a field is what is written for it, if anything.
  rw [Json.record, lawful.record_tree_ok_iff _ depth blank done]
  simp only [shown_record distinct]

/-- A structured value with optional parts is read from what is there of the fields of a record. -/
theorem Independent.latest_ok_iff {fields : List (String × (σ → Tree → Read σ))}
    (independent : Independent fields) {written : List (String × Option Json)}
    (distinct : (written.map (·.1)).Nodup) (depth : Nat) (empty done : σ) :
    latest fields empty ((Json.record written).tree (depth + 1)) = .ok done ↔
      fill fields empty (fun name => (written.lookup name).join.map (Json.tree depth)) =
        .ok done := by
  -- What is shown under the name of a field is what is written for it, if anything.
  rw [Json.record, independent.latest_tree_ok_iff _ depth empty done]
  simp only [shown_record distinct]

/-- Items that are read as they were written make a list that is read as it was. -/
theorem list_tree {read : Tree → Read β} {write : β → Json} {depth : Nat} {values : List β}
    (rereads : ∀ v ∈ values, read ((write v).tree depth) = .ok v) :
    list read ((Json.array (values.map write)).tree (depth + 1)) = .ok values := by
  -- The tree of a list has the trees of its items.
  have items : Source.items ((Json.array (values.map write)).tree (depth + 1)) =
      .ok (values.map fun v => (write v).tree depth) := by
    simp only [Json.tree, Json.treeItems_eq, List.map_map]
    rfl
  rw [list, items]
  show (values.map fun v => (write v).tree depth).mapM read = .ok values
  -- Item by item; how the list is told from other trees no longer matters.
  clear items
  induction values with
  | nil => rfl
  | cons v rest ih =>
    obtain ⟨first, others⟩ := List.forall_mem_cons.mp rereads
    rw [List.map_cons, List.mapM_cons, first, ih others]
    rfl

/-- A text is read as it was written. -/
@[simp] theorem text_tree (s : String) (depth : Nat) :
    text ((Json.text s).tree depth) = .ok s := by
  -- The tree of a text is a text at any depth.
  rw [Json.tree]
  rfl

/-- A truth value is read as it was written. -/
@[simp] theorem truth_tree (b : Bool) (depth : Nat) :
    truth ((Json.bool b).tree depth) = .ok b := by
  -- The tree of a truth value is one at any depth.
  rw [Json.tree]
  rfl

/-- An integer is read as it was written, if it fits. -/
theorem integer_tree {n : Int} (fits : Decimal.fitsSigned 64 n = true) (depth : Nat) :
    integer ((Json.integer n).tree depth) = .ok n := by
  -- What fits a signed word is kept exactly in the text of a number.
  have held : Json.Held n := by
    simp only [Decimal.fitsSigned, Nat.reduceSub, Bool.and_eq_true, decide_eq_true_eq] at fits
    have bound : Decimal.wordBound 63 < Decimal.wordBound 64 := by decide
    constructor <;> omega
  rw [Json.integer, Json.tree, Json.reread_integer held]
  exact if_pos fits

/-- A name is read as the choice that it stands for. -/
theorem variant_tree {choose : String → Option β} {name : String} {choice : β}
    (stands : choose name = some choice) (depth : Nat) :
    variant choose ((Json.text name).tree depth) = .ok choice := by
  -- The tree of a name is a text, and a text is read by its name alone.
  rw [Json.tree]
  show Tree.readVariant.pick choose name = _
  rw [Tree.readVariant.pick, stands]

/-- A written instant is read, if it can be told. -/
theorem instant_tree {t : Time.Timestamp} (valid : t.Valid) (depth : Nat) :
    instant ((Json.text t.text).tree depth) = .ok t := by
  -- An instant is read through its text.
  refine (bind_ok_iff ..).mpr ⟨t.text, text_tree t.text depth, ?_⟩
  rw [Time.Timestamp.ofText?_text valid]
  rfl

/-- Texts are read as they were written. -/
theorem texts_tree (items : List String) (depth : Nat) :
    list text ((Json.texts items).tree (depth + 1)) = .ok items :=
  list_tree fun s _ => text_tree s depth

/-- Named texts are read as they were written, if they are sorted. -/
theorem textMap_tree {entries : List (String × String)} (sorted : Json.Sorted entries)
    (depth : Nat) : map text ((Json.textMap entries).tree (depth + 1)) = .ok entries := by
  -- Sorted entries are shown in their order.
  have tree : (Json.textMap entries).tree (depth + 1) =
      .object (entries.map fun e => (.text (some e.1), (Json.text e.2).tree depth)) := by
    have same := Json.sortEntries_map Json.text entries
    rw [sorted.sortEntries_eq] at same
    rw [Json.textMap, Json.tree_object, same, List.map_map]
    rfl
  -- Each entry is read by itself, and they are in order already.
  have pairs : (entries.map fun e => (Tree.text (some e.1), (Json.text e.2).tree depth)).mapM
      (fun (key, value) => do return (← text key, ← text value)) = .ok entries := by
    clear tree sorted
    induction entries with
    | nil => rfl
    | cons e rest ih =>
      rw [List.map_cons, List.mapM_cons, ih]
      dsimp only
      rw [text_tree]
      rfl
  rw [map, tree]
  refine (bind_ok_iff ..).mpr ⟨_, rfl, (bind_ok_iff ..).mpr ⟨entries, pairs, ?_⟩⟩
  rw [sorted.sortEntries_eq]
  rfl

/-- A field that may have been written is read. -/
theorem fill_written {name : String} {read : σ → Tree → Read σ}
    {rest : List (String × (σ → Tree → Read σ))} {draft next : σ} {given : String → Option Tree}
    (depth : Nat) (held : Option Json) (shows : given name = held.map (Json.tree depth))
    (absent : held = none → next = draft)
    (present : ∀ json, held = some json → read draft (json.tree depth) = .ok next) :
    fill ((name, read) :: rest) draft given = fill rest next given := by
  -- Whether the field is there depends on whether anything is written for it.
  rw [fill, shows]
  cases held with
  | none => rw [absent rfl]; rfl
  | some json =>
    show (do fill rest (← read draft (json.tree depth)) given) = _
    rw [present json rfl]
    rfl

/-- A field that is always written is read as it was. -/
theorem fill_always {name : String} {put : σ → β → σ} {read : Tree → Read β}
    {rest : List (String × (σ → Tree → Read σ))} {draft : σ} {given : String → Option Tree}
    {depth : Nat} {json : Json} {value : β} (shows : given name = some (json.tree depth))
    (rereads : read (json.tree depth) = .ok value) :
    fill ((name, fun draft node => do return put draft (← read node)) :: rest) draft given =
      fill rest (put draft value) given :=
  fill_present shows rereads

/-- A field that is written unless it is absent is read as it was; with it, the draft is the next
one. -/
theorem fill_perhaps {name : String} {put : σ → β → σ} {read : Tree → Read β}
    {rest : List (String × (σ → Tree → Read σ))} {draft : σ} {given : String → Option Tree}
    (depth : Nat) (value : Option β) (write : β → Json) (next : Option β → σ)
    (shows : given name = (value.map write).map (Json.tree depth)) (blank : next none = draft)
    (puts : ∀ v, put draft v = next (some v))
    (rereads : ∀ v ∈ value, read ((write v).tree depth) = .ok v) :
    fill ((name, fun draft node => do return put draft (← read node)) :: rest) draft given =
      fill rest (next value) given :=
  fill_optional value (fun v => (write v).tree depth) next (by rw [shows, Option.map_map]; rfl) blank puts
    rereads

/-- Only the absent value is read as nothing. -/
theorem nullable_tree {read : Tree → Read β} {json : Json} (there : json ≠ .null) {depth : Nat}
    {value : β} (reads : read (json.tree depth) = .ok value) :
    nullable read (json.tree depth) = .ok (some value) := by
  -- The value is not taken for an absent one.
  have optional : Source.optional (json.tree depth) = .ok (some (json.tree depth)) := by
    -- Null is the only value whose node counts as absent.
    cases json with
    | null => exact absurd rfl there
    | _ => cases depth <;> rfl
  rw [nullable, optional]
  show (do return some (← read (json.tree depth))) = _
  rw [reads]
  rfl

/-- A field that is written unless it is absent, and may be null, is read as it was. -/
theorem fill_nullable {name : String} {put : σ → Option β → σ} {read : Tree → Read β}
    {rest : List (String × (σ → Tree → Read σ))} {draft : σ} {given : String → Option Tree}
    (depth : Nat) (value : Option β) (write : β → Json)
    (shows : given name = (value.map write).map (Json.tree depth)) (blank : put draft none = draft)
    (rereads : ∀ v ∈ value, write v ≠ .null ∧ read ((write v).tree depth) = .ok v) :
    fill ((name, fun draft node => do return put draft (← nullable read node)) :: rest) draft given =
      fill rest (put draft value) given := by
  -- A value that is there is not written as null, so that it is told from an absent one.
  refine fill_written depth (value.map write) shows ?_ fun json held => ?_
  · intro absent
    rw [Option.map_eq_none_iff.mp absent, blank]
  · obtain ⟨v, rfl, rfl⟩ := Option.map_eq_some_iff.mp held
    obtain ⟨there, reads⟩ := rereads v rfl
    rw [nullable_tree there reads]
    rfl

end CsiOperator.Decode
