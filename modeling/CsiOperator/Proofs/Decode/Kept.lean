import CsiOperator.Decode.Instant
import CsiOperator.Proofs.Decode.Record
import CsiOperator.Proofs.Json.Reread
import CsiOperator.Proofs.Time.Timestamp

/-! What every field keeps holds of a value that has been read, whatever the document. -/

namespace CsiOperator.Decode

open Failure (bind_ok_iff pure_ok_iff)
open Json (Sound Tree)

variable {ν σ β : Type}

section Fields

variable {P : σ → Prop} {S : ν → Prop}

/-- What holds of a draft holds of all that is read into it, if every field keeps it. -/
theorem readNamed_keeps [Source ν] {fields : List (Field ν σ)}
    (keeps : ∀ f ∈ fields, ∀ draft node later, S node → P draft →
      f.read draft node = .ok later → P later) {entries : List (ν × ν)}
    (sound : ∀ e ∈ entries, S e.2) {draft done : σ} (start : P draft)
    (reads : readNamed fields draft entries = .ok done) : P done := by
  -- Induction on the entries: each is passed over, or read by the field of its name, which keeps
  -- `P`.
  induction entries generalizing draft with
  | nil =>
    simp only [readNamed] at reads
    split at reads
    · cases reads
    · exact Except.ok.inj reads ▸ start
  | cons entry rest ih =>
    obtain ⟨first, others⟩ := List.forall_mem_cons.mp sound
    simp only [readNamed, bind_ok_iff] at reads
    obtain ⟨name, -, reads⟩ := reads
    split at reads
    · exact ih others start ((skip_bind_ok_iff ..).mp reads).2
    · rename_i f found
      split at reads
      · cases reads
      · obtain ⟨mid, read, reads⟩ := (bind_ok_iff ..).mp reads
        have member := List.mem_of_find?_eq_some found
        exact ih others (keeps f member draft entry.2 mid first start read) reads

/-- What holds of a draft holds of all that is read into it in order, if every field keeps it. -/
theorem readPositional_keeps {fields : List (Field ν σ)}
    (keeps : ∀ f ∈ fields, ∀ draft node later, S node → P draft →
      f.read draft node = .ok later → P later) {items : List ν}
    (sound : ∀ t ∈ items, S t) {draft done : σ} (start : P draft)
    (reads : readPositional fields draft items = .ok done) : P done := by
  -- Induction on the fields, which take up the items one by one; a field without an item leaves the
  -- draft as it is.
  induction fields generalizing draft items with
  | nil =>
    cases items with
    | nil => exact Except.ok.inj reads ▸ start
    | cons t rest => cases reads
  | cons f fields ih =>
    obtain ⟨keepsFirst, keeps⟩ := List.forall_mem_cons.mp keeps
    cases items with
    | nil =>
      rw [readPositional] at reads
      split at reads
      · exact ih keeps sound start reads
      · cases reads
    | cons t rest =>
      obtain ⟨first, others⟩ := List.forall_mem_cons.mp sound
      obtain ⟨mid, read, reads⟩ := (bind_ok_iff ..).mp reads
      exact ih keeps others (keepsFirst draft t mid first start read) reads

/-- What every field keeps holds of a structured value, whatever its parts are. -/
theorem record_keeps_any [Source ν] {fields : List (Field ν σ)}
    (keeps : ∀ f ∈ fields, ∀ draft node later, P draft → f.read draft node = .ok later → P later)
    {empty done : σ} (start : P empty) {node : ν} (reads : record fields empty node = .ok done) :
    P done := by
  -- The property needs nothing of the nodes here, so any node counts as sound.
  obtain ⟨parts, -, reads⟩ := (bind_ok_iff ..).mp reads
  have all : ∀ f ∈ fields, ∀ draft node later, True → P draft → f.read draft node = .ok later →
      P later := fun f member draft node later _ => keeps f member draft node later
  cases parts with
  | named entries => exact readNamed_keeps all (by simp) start reads
  | positional items => exact readPositional_keeps all (by simp) start reads

end Fields

/-- What every field keeps holds of a structured value. -/
theorem record_keeps {fields : List (Field Tree σ)} {P : σ → Prop} {depth : Nat}
    (keeps : ∀ f ∈ fields, ∀ draft node later, Sound depth node → P draft →
      f.read draft node = .ok later → P later) {empty done : σ} (start : P empty) {node : Tree}
    (sound : Sound (depth + 1) node) (reads : record fields empty node = .ok done) : P done := by
  -- Only objects and lists are taken apart, and their parts are sound one level below.
  obtain ⟨parts, isParts, reads⟩ := (bind_ok_iff ..).mp reads
  cases sound with
  | object sound =>
    obtain rfl := Except.ok.inj isParts
    exact readNamed_keeps keeps sound start reads
  | array sound =>
    obtain rfl := Except.ok.inj isParts
    exact readPositional_keeps keeps sound start reads
  | number => rename_i value _; cases value <;> cases isParts
  | text value => cases value <;> cases isParts
  | _ => cases isParts

/-- What holds of a draft holds of all that is read into it, parts of one name included. -/
theorem readLatest_keeps {fields : List (String × (σ → Tree → Read σ))} {P : σ → Prop} {depth : Nat}
    (keeps : ∀ f ∈ fields, ∀ draft node later, Sound depth node → P draft →
      f.2 draft node = .ok later → P later) {entries : List (Tree × Tree)}
    (sound : ∀ e ∈ entries, Sound depth e.2) {draft done : σ} (start : P draft)
    (reads : readLatest fields draft entries = .ok done) : P done := by
  -- As above, except that a name may come again.
  induction entries generalizing draft with
  | nil => exact Except.ok.inj reads ▸ start
  | cons entry rest ih =>
    obtain ⟨first, others⟩ := List.forall_mem_cons.mp sound
    simp only [readLatest, bind_ok_iff] at reads
    obtain ⟨name, -, reads⟩ := reads
    split at reads
    · exact ih others start ((skip_bind_ok_iff ..).mp reads).2
    · rename_i read found
      obtain ⟨mid, reads, later⟩ := (bind_ok_iff ..).mp reads
      exact ih others (keeps _ (mem_of_lookup found) draft entry.2 mid first start reads) later

/-- The values of a map are sound. -/
theorem entries_sound {depth : Nat} {node : Tree} (sound : Sound (depth + 1) node)
    {parts : List (Tree × Tree)} (isMap : entries node = .ok parts) :
    ∀ e ∈ parts, Sound depth e.2 := by
  -- Only an object has entries.
  cases sound with
  | object sound => exact Except.ok.inj isMap ▸ sound
  | number => rename_i value _; cases value <;> cases isMap
  | text value => cases value <;> cases isMap
  | _ => cases isMap

/-- The items of a list are sound. -/
theorem items_sound {depth : Nat} {node : Tree} (sound : Sound (depth + 1) node)
    {nodes : List Tree} (isList : items node = .ok nodes) : ∀ t ∈ nodes, Sound depth t := by
  -- Only a list has items.
  cases sound with
  | array sound => exact Except.ok.inj isList ▸ sound
  | number => rename_i value _; cases value <;> cases isList
  | text value => cases value <;> cases isList
  | _ => cases isList

/-- What every field keeps holds of a structured value with optional parts. -/
theorem latest_keeps {fields : List (String × (σ → Tree → Read σ))} {P : σ → Prop} {depth : Nat}
    (keeps : ∀ f ∈ fields, ∀ draft node later, Sound depth node → P draft →
      f.2 draft node = .ok later → P later) {empty done : σ} (start : P empty) {node : Tree}
    (sound : Sound (depth + 1) node) (reads : latest fields empty node = .ok done) : P done := by
  -- The entries of a sound mapping are sound one level below.
  obtain ⟨parts, isMap, reads⟩ := (bind_ok_iff ..).mp reads
  exact readLatest_keeps keeps (entries_sound sound isMap) start reads

/-- The values of a list are read from its items. -/
theorem mapM_reads {read : ν → Read β} {nodes : List ν} {values : List β}
    (reads : nodes.mapM read = .ok values) : ∀ v ∈ values, ∃ t ∈ nodes, read t = .ok v := by
  -- Each value is read from the item at its place.
  induction nodes generalizing values with
  | nil =>
    obtain rfl : [] = values := by simpa [pure_ok_iff] using reads
    simp
  | cons t rest ih =>
    simp only [List.mapM_cons, bind_ok_iff, pure_ok_iff] at reads
    obtain ⟨v, read, later, reads, rfl⟩ := reads
    refine List.forall_mem_cons.mpr ⟨⟨t, List.mem_cons_self, read⟩, fun v member => ?_⟩
    obtain ⟨t, listed, read⟩ := ih reads v member
    exact ⟨t, List.mem_cons_of_mem _ listed, read⟩

/-- The values of a list are read from sound items. -/
theorem list_sound {read : Tree → Read β} {depth : Nat} {node : Tree}
    (sound : Sound (depth + 1) node) {values : List β} (reads : list read node = .ok values) :
    ∀ v ∈ values, ∃ t, Sound depth t ∧ read t = .ok v := by
  -- The items of a sound list are sound one level below.
  obtain ⟨nodes, isList, reads⟩ := (bind_ok_iff ..).mp reads
  intro v member
  obtain ⟨t, listed, read⟩ := mapM_reads reads v member
  exact ⟨t, items_sound sound isList t listed, read⟩

/-- A value that is not absent is read from the node itself, which is not null. -/
theorem nullable_some {read : Tree → Read β} {node : Tree} {value : β}
    (reads : nullable read node = .ok (some value)) : node ≠ .null ∧ read node = .ok value := by
  -- The node is looked at for null first, and read when it is something else.
  rw [nullable] at reads
  obtain ⟨found, optional, reads⟩ := (bind_ok_iff ..).mp reads
  -- Null is read as nothing, and any other node stays itself.
  have same : (node = .null ∧ found = none) ∨ (node ≠ .null ∧ found = some node) := by
    cases node with
    | null => exact .inl ⟨rfl, (Except.ok.inj optional).symm⟩
    | _ => exact .inr ⟨by simp, (Except.ok.inj optional).symm⟩
  rcases same with ⟨-, rfl⟩ | ⟨there, rfl⟩
  · cases reads
  · obtain ⟨v, read, same⟩ := (bind_ok_iff ..).mp reads
    exact ⟨there, read.trans (congrArg Except.ok (Option.some.inj (Except.ok.inj same)))⟩

/-- Only instants that can be told are read. -/
theorem instant_valid {node : Tree} {t : Time.Timestamp} (reads : instant node = .ok t) :
    t.Valid := by
  -- Only the text of an instant passes the check.
  obtain ⟨s, -, reads⟩ := (bind_ok_iff ..).mp reads
  split at reads
  · rename_i read
    exact Except.ok.inj reads ▸ Time.Timestamp.valid_of_ofText? read
  · cases reads

/-- Only integers that fit are read. -/
theorem integer_fits {node : Tree} {n : Int} (reads : integer node = .ok n) :
    Decimal.fitsSigned 64 n = true := by
  -- Real numbers and everything that is no number are refused, so an integer is left.
  cases node with
  | number value =>
    cases value with
    | none => cases reads
    | some value =>
      cases value with
      | real x => cases reads
      | integer k =>
        change (if Decimal.fitsSigned 64 k then Except.ok k else Except.error Fault.other) = .ok n at reads
        split at reads
        · rename_i fits
          exact Except.ok.inj reads ▸ fits
        · cases reads
  | text value => cases value <;> cases reads
  | _ => cases reads

/-- Named values are sorted once they have been read. -/
theorem map_sorted {read : Tree → Read β} {node : Tree} {entries : List (String × β)}
    (reads : map read node = .ok entries) : Json.Sorted entries := by
  -- Sorting is the last step of reading.
  obtain ⟨_, -, reads⟩ := (bind_ok_iff ..).mp reads
  obtain ⟨pairs, -, same⟩ := (bind_ok_iff ..).mp reads
  obtain rfl := Except.ok.inj same
  exact Json.sorted_sortEntries pairs

end CsiOperator.Decode
