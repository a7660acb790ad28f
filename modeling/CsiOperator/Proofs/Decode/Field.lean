import CsiOperator.Proofs.Decode.Part
import CsiOperator.Proofs.Decode.Record

/-! What is read of a field of an object is what the object shows under its name. -/

namespace CsiOperator.Decode

open Json (Tree)
open Failure (bind_ok_iff)

variable {σ β : Type}

/-- Something has been read from the value that is shown, or is as it was if none is shown. -/
def ReadFrom (read : Tree → Read β) (shown : Option Json) (before after : β) : Prop :=
  -- Some node shows that value; nothing else of the node is told.
  match shown with
  | none => after = before
  | some json => ∃ node : Tree, node.readAny = .ok json ∧ read node = .ok after

/-- Reads a value that is absent before it is read. -/
def given (read : Tree → Read β) (node : Tree) : Read (Option β) :=
  some <$> read node

/-- It is read when the value is, and then it is there. -/
theorem given_ok_iff (read : Tree → Read β) (node : Tree) (held : Option β) :
    given read node = .ok held ↔ ∃ value, read node = .ok value ∧ held = some value := by
  cases reads : read node <;> simp [given, reads, Functor.map, Except.map, eq_comm]

/-- What has been read from a part that shows a value is what is shown. -/
theorem ReadPart.shown {read : Tree → Read β} {part : Option Tree} {shown : Option Json}
    {before after : β} (reads : ReadPart read part before after)
    (shows : part.map Tree.readAny = shown.map .ok) : ReadFrom read shown before after := by
  -- There is a part exactly when something is shown for it.
  cases part with
  | none =>
    obtain rfl : shown = none := by simpa using shows.symm
    exact reads
  | some node =>
    obtain ⟨json, rfl, same⟩ := Option.map_eq_some_iff.mp shows.symm
    exact ⟨node, same.symm, reads⟩

/-- Keys are read as texts, and values as they are shown. -/
theorem readAnyEntries_cons_ok_iff (key value : Tree) (rest : List (Tree × Tree))
    (shown : List (String × Json)) :
    Tree.readAnyEntries ((key, value) :: rest) = .ok shown ↔
      ∃ name json later, key.readText = .ok name ∧ value.readAny = .ok json ∧
        Tree.readAnyEntries rest = .ok later ∧ shown = (name, json) :: later := by
  -- The steps of reading an entry are the conjuncts, in another order.
  simp only [Tree.readAnyEntries, bind_ok_iff, Failure.pure_ok_iff]
  constructor
  · rintro ⟨name, named, json, valued, later, read, rfl⟩
    exact ⟨name, json, later, named, valued, read, rfl⟩
  · rintro ⟨name, json, later, named, valued, read, rfl⟩
    exact ⟨name, named, json, valued, later, read, rfl⟩

/-- The last entry of a name shows the last value of that name. -/
theorem named_shown {entries : List (Tree × Tree)} {shown : List (String × Json)}
    (shows : Tree.readAnyEntries entries = .ok shown) (name : String) :
    ((Tree.named entries).reverse.lookup name).map Tree.readAny =
      (shown.reverse.lookup name).map .ok := by
  -- Entry by entry, the names with what their values show are the names with the values that are
  -- shown.
  have same : (Tree.named entries).map (fun e => (e.1, e.2.readAny)) =
      shown.map fun e => (e.1, .ok e.2) := by
    induction entries generalizing shown with
    | nil =>
      obtain rfl : [] = shown := by simpa [Tree.readAnyEntries, Failure.pure_ok_iff] using shows
      rfl
    | cons entry rest ih =>
      obtain ⟨key, value⟩ := entry
      obtain ⟨k, json, later, named, valued, showsRest, rfl⟩ :=
        (readAnyEntries_cons_ok_iff ..).mp shows
      rw [Tree.named_cons named]
      simp [valued, ih showsRest]
  rw [← lookup_map, ← lookup_map, List.map_reverse, List.map_reverse, same]

/-- A field that is the only one reads all of the draft. -/
theorem Holds.only (name : String) (read : Tree → Read β) (absence : Absence) :
    Holds [⟨name, Option.isSome, fun _ n => return some (← read n), absence⟩] name id
      (given read) := by
  -- There is no other field, and the draft is the value itself.
  refine ⟨?_, ?_, ?_⟩
  all_goals simp [given]

/-- What has been read from named parts is what the last one of its name shows. -/
theorem readNamed_readFrom {fields : List (Field Tree σ)} {name : String} {part : σ → β}
    {read : Tree → Read β} (holds : Holds fields name part read)
    {entries : List (Tree × Tree)} {draft done : σ} {shown : List (String × Json)}
    (reads : readNamed fields draft entries = .ok done)
    (shows : Tree.readAnyEntries entries = .ok shown) :
    ReadFrom read (shown.reverse.lookup name) (part draft) (part done) :=
  (readNamed_part holds reads).shown (named_shown shows name)

/-- What has been read from named parts that may be repeated is what the last one shows. -/
theorem readLatest_readFrom {fields : List (String × (σ → Tree → Read σ))} {name : String}
    {part : σ → β} {read : Tree → Read β} (holds : HoldsLatest fields name part read)
    {entries : List (Tree × Tree)} {draft done : σ} {shown : List (String × Json)}
    (reads : readLatest fields draft entries = .ok done)
    (shows : Tree.readAnyEntries entries = .ok shown) :
    ReadFrom read (shown.reverse.lookup name) (part draft) (part done) :=
  (readLatest_part holds reads).shown (named_shown shows name)

/-- What a node is that shows a value. -/
def Shape (node : Tree) : Json → Prop
  -- A list and an object are told as far as their parts, and a map is sorted only when it is shown.
  | .null => node = .null
  | .bool b => node = .bool b
  | .number n => node = .number (some n)
  | .text s => node = .text (some s)
  | .array shown => ∃ items, node = .array items ∧ Tree.readAnyItems items = .ok shown
  | .object shown => ∃ entries parts, node = .object entries ∧
    Tree.readAnyEntries entries = .ok parts ∧ shown = Json.sortEntries parts

/-- A value is shown by a node of its own shape. -/
theorem shape_of_readAny {node : Tree} {json : Json} (shows : node.readAny = .ok json) :
    Shape node json := by
  -- Nodes that cannot be shown fall away; each of the others is shown in one way.
  cases node with
  | null => cases shows; rfl
  | bool b => cases shows; rfl
  | number value =>
    cases value with
    | none => cases shows
    | some n => cases shows; rfl
  | text value =>
    cases value with
    | none => cases shows
    | some s => cases shows; rfl
  | deep broken => cases shows
  | cut => cases shows
  | array items =>
    obtain ⟨shown, reads, rfl⟩ := by
      simpa only [Tree.readAny, bind_ok_iff, Failure.pure_ok_iff] using shows
    exact ⟨items, rfl, reads⟩
  | object entries =>
    obtain ⟨parts, reads, rfl⟩ := by
      simpa only [Tree.readAny, bind_ok_iff, Failure.pure_ok_iff] using shows
    exact ⟨entries, parts, rfl, reads, rfl⟩

/-- What is read of a structured value is what the object shows. -/
theorem record_readFrom {fields : List (Field Tree σ)} {name : String} {part : σ → β}
    {read : Tree → Read β} (holds : Holds fields name part read) {empty done : σ} {node : Tree}
    {shown : List (String × Json)} (shows : node.readAny = .ok (.object shown))
    (reads : record fields empty node = .ok done) :
    ReadFrom read (shown.lookup name) (part empty) (part done) := by
  -- What is shown as an object has been read from a mapping.
  obtain ⟨entries, parts, rfl, read, rfl⟩ := shape_of_readAny shows
  -- An object is shown sorted, with the last value of each name.
  rw [Json.lookup_sortEntries]
  exact readNamed_readFrom holds reads read

/-- What is read of a structured value with optional parts is what the object shows. -/
theorem latest_readFrom {fields : List (String × (σ → Tree → Read σ))} {name : String}
    {part : σ → β} {read : Tree → Read β} (holds : HoldsLatest fields name part read)
    {empty done : σ} {node : Tree} {shown : List (String × Json)}
    (shows : node.readAny = .ok (.object shown)) (reads : latest fields empty node = .ok done) :
    ReadFrom read (shown.lookup name) (part empty) (part done) := by
  -- Shown entries are sorted, which leaves the last value of each name in its place.
  obtain ⟨entries, parts, rfl, read, rfl⟩ := shape_of_readAny shows
  rw [Json.lookup_sortEntries]
  exact readLatest_readFrom holds reads read

/-- Reading a value that is there is reading it and then having it. -/
theorem bind_given (read : Tree → Read β) (node : Tree) :
    (do return some (← read node)) = given read node := by
  simp [given]

/-- Null is nothing, and any other node is read. -/
theorem nullable_eq (read : Tree → Read β) (node : Tree) :
    nullable read node = match node with
      | .null => .ok none
      | node => given read node := by
  -- Null alone is passed over before the value is read.
  cases node with
  | null => rfl
  | _ => exact bind_given ..

/-- A text shows as itself. -/
theorem readAny_of_text {node : Tree} {s : String} (reads : node.readText = .ok s) :
    node.readAny = .ok (.text s) := by
  -- Nothing but a text that is not broken off is read as one.
  cases node with
  | text value =>
    cases value with
    | none => simp [Tree.readText] at reads
    | some s' =>
      obtain rfl : s' = s := by simpa [Tree.readText] using reads
      rfl
  | _ => simp [Tree.readText] at reads

/-- What has been read as a text is the text that is shown, if one is. -/
theorem ReadFrom.text {shown : Option Json} {after : Option String}
    (read : ReadFrom (given text) shown none after) : shown.bind Json.text? = after := by
  -- Without anything shown there is no text.
  cases shown with
  | none => exact read.symm
  | some json =>
    obtain ⟨node, shows, reads⟩ := read
    obtain ⟨s, found, rfl⟩ := (given_ok_iff ..).mp reads
    rw [readAny_of_text found, Except.ok.injEq] at shows
    simp [← shows, Json.text?]

/-- A value that must have been read has been. -/
theorem present_ok_iff (name : String) (held : Option β) (value : β) :
    present name held = .ok value ↔ held = some value := by
  cases held <;> simp [present]

/-- A whole text is read when its value is, and nothing follows. -/
theorem decode_ok_iff (read : Tree → Read β) (text : String) (value : β) :
    Json.decode read text = .ok value ↔ read (Json.Document.ofText text).root = .ok value ∧
      (Json.Document.ofText text).complete = true := by
  -- Reading and completeness are looked at one after the other.
  simp only [Json.decode, bind_ok_iff]
  constructor
  · rintro ⟨found, reads, whole⟩
    split at whole
    · rename_i complete
      exact ⟨Except.ok.inj whole ▸ reads, complete⟩
    · cases whole
  · rintro ⟨reads, complete⟩
    exact ⟨value, reads, by rw [if_pos complete]⟩

end CsiOperator.Decode
