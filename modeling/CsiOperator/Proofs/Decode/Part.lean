import CsiOperator.Decode.Json
import CsiOperator.Proofs.Failure
import CsiOperator.Proofs.Json.Entries

/-! What is read of a field is read from the last part that has its name. -/

namespace CsiOperator.Json.Tree

/-- The text that a node is, if it is one. -/
def text? : Tree → Option String
  -- A text that cannot be told is a node of its kind, but no text.
  | .text s => s
  | _ => none

/-- A node is read as the text that it is. -/
theorem readText_ok_iff (t : Tree) (s : String) : t.readText = .ok s ↔ t.text? = some s := by
  -- Only a scalar has a text, and only one that is a text itself.
  cases t with
  | text value => cases value <;> simp [readText, text?]
  | _ => simp [readText, text?]

/-- Entries with their names; a key that is not a text is not a name. -/
def named (entries : List (Tree × Tree)) : List (String × Tree) :=
  entries.filterMap fun entry => entry.1.text?.map (·, entry.2)

/-- The part of a node that belongs to one of some fields: the last entry of its name, or the item in
its place. -/
def part? (fields : List String) (name : String) : Tree → Option Tree
  -- Of entries with one name the last is looked up, as it would be in a value.
  | .object entries => (named entries).reverse.lookup name
  | .array items => (fields.zip items).reverse.lookup name
  | _ => none

/-- A key that is read is the name of its entry. -/
theorem named_cons {key : Tree} {name : String} (reads : key.readText = .ok name) (value : Tree)
    (rest : List (Tree × Tree)) : named ((key, value) :: rest) = (name, value) :: named rest := by
  -- The name is that of the key, and nothing is left out.
  rw [named, List.filterMap_cons_some]
  · rfl
  · simp [(readText_ok_iff ..).mp reads]

end CsiOperator.Json.Tree

namespace CsiOperator.Decode

open Json (Tree)
open Failure (bind_ok_iff)

variable {ν σ β : Type}

/-- Entries with their names; a key that is not read as a text is not a name. -/
def labelled [Source ν] (entries : List (ν × ν)) : List (String × ν) :=
  entries.filterMap fun entry => (text entry.1).toOption.map (·, entry.2)

/-- A key that is read as a text is the name of its entry. -/
theorem labelled_cons [Source ν] {key : ν} {name : String} (reads : text key = .ok name) (value : ν)
    (rest : List (ν × ν)) : labelled ((key, value) :: rest) = (name, value) :: labelled rest := by
  -- The name is that of the key, and nothing is left out.
  rw [labelled, List.filterMap_cons_some]
  · rfl
  · simp [reads, Except.toOption]

/-- Something has been read from a part, or is as it was where the part is missing. -/
def ReadPart (read : ν → Read β) (part : Option ν) (before after : β) : Prop :=
  -- A part that is there is read whatever was there before.
  match part with
  | none => after = before
  | some node => read node = .ok after

/-- One more part before the others counts only if none of them has its name. -/
theorem ReadPart.cons {read : ν → Read β} {name key : String} {node : ν}
    {rest : List (String × ν)} {before mid after : β}
    (own : key = name → read node = .ok mid) (other : key ≠ name → mid = before)
    (later : ReadPart read (rest.reverse.lookup name) mid after) :
    ReadPart read (((key, node) :: rest).reverse.lookup name) before after := by
  -- The additional part comes last in the order in which names are looked up.
  rw [List.reverse_cons, List.lookup_append, Json.lookup_cons_eq, List.lookup_nil]
  cases found : rest.reverse.lookup name with
  | some last =>
    rw [found] at later
    exact later
  | none =>
    have unchanged : after = mid := by simpa [found, ReadPart] using later
    by_cases same : name = key
    · rw [if_pos same]
      exact unchanged ▸ own same.symm
    · rw [if_neg same]
      exact unchanged.trans (other (Ne.symm same))

/-- The fields of one name, and no others, read a part of a draft. -/
structure Holds (fields : List (Field Tree σ)) (name : String) (part : σ → β)
    (read : Tree → Read β) : Prop where
  /-- There is a field of that name. -/
  named : ∃ f ∈ fields, f.name = name
  /-- A field of that name reads the part. -/
  own : ∀ f ∈ fields, f.name = name → ∀ draft node, part <$> f.read draft node = read node
  /-- The other fields leave the part alone. -/
  others : ∀ f ∈ fields, f.name ≠ name → ∀ draft node,
    part <$> f.read draft node = (fun _ => part draft) <$> f.read draft node

/-- The field of one name, and no other, reads a part of a draft that may be read again. -/
structure HoldsLatest (fields : List (String × (σ → ν → Read σ))) (name : String)
    (part : σ → β) (read : ν → Read β) : Prop where
  /-- There is a field of that name. -/
  named : (fields.lookup name).isSome
  /-- The field of that name reads the part. -/
  own : ∀ field, fields.lookup name = some field → ∀ draft node,
    part <$> field draft node = read node
  /-- The other fields leave the part alone. -/
  others : ∀ f ∈ fields, f.1 ≠ name → ∀ draft node,
    part <$> f.2 draft node = (fun _ => part draft) <$> f.2 draft node

/-- A part that a field reads is there once the field has been read. -/
theorem part_read {part : σ → β} {outcome : Read σ} {read : Read β}
    (own : part <$> outcome = read) {later : σ} (reads : outcome = .ok later) :
    read = .ok (part later) := by
  -- The part is looked at in what the field has come to.
  rw [← own, reads]
  rfl

/-- A part that a field leaves alone is as it was once the field has been read. -/
theorem part_kept {part : σ → β} {outcome : Read σ} {held : β}
    (other : part <$> outcome = (fun _ => held) <$> outcome) {later : σ}
    (reads : outcome = .ok later) : part later = held := by
  -- The part is looked at in what the field has come to.
  rw [reads] at other
  exact Except.ok.inj other

/-- What has been read from named parts is read from the last one of its name. -/
theorem readNamed_part {fields : List (Field Tree σ)} {name : String} {part : σ → β}
    {read : Tree → Read β} (holds : Holds fields name part read) {entries : List (Tree × Tree)}
    {draft done : σ} (reads : readNamed fields draft entries = .ok done) :
    ReadPart read ((Tree.named entries).reverse.lookup name) (part draft) (part done) := by
  -- The entries are gone through one by one; each of them leaves the part alone or reads it anew.
  induction entries generalizing draft with
  | nil =>
    simp only [readNamed] at reads
    split at reads
    · cases reads
    · exact congrArg part (Except.ok.inj reads).symm
  | cons entry rest ih =>
    obtain ⟨key, value⟩ := entry
    simp only [readNamed, bind_ok_iff] at reads
    obtain ⟨k, isName, reads⟩ := reads
    rw [Tree.named_cons isName]
    cases found : fields.find? fun f => f.name == k with
    | none =>
      -- An unknown name is passed over, and it is not the one of the field.
      obtain ⟨_, _, reads⟩ := by simpa only [found, bind_ok_iff] using reads
      obtain ⟨f, member, isField⟩ := holds.named
      have unknown := List.find?_eq_none.mp found f member
      exact .cons (fun same => absurd (isField.trans same.symm) (by simpa using unknown))
        (fun _ => rfl) (ih reads)
    | some f =>
      have member := List.mem_of_find?_eq_some found
      have isField : f.name = k := by simpa using List.find?_some found
      simp only [found] at reads
      split at reads
      · cases reads
      · obtain ⟨mid, read, reads⟩ := (bind_ok_iff ..).mp reads
        exact .cons (fun same => part_read (holds.own f member (isField.trans same) draft value) read)
          (fun other => part_kept (holds.others f member (isField ▸ other) draft value) read)
          (ih reads)

/-- What has been read from named parts that may be repeated is read from the last one of its name. -/
theorem readLatest_labelled [Source ν] {fields : List (String × (σ → ν → Read σ))} {name : String}
    {part : σ → β} {read : ν → Read β} (holds : HoldsLatest fields name part read)
    {entries : List (ν × ν)} {draft done : σ}
    (reads : readLatest fields draft entries = .ok done) :
    ReadPart read ((labelled entries).reverse.lookup name) (part draft) (part done) := by
  -- A name that comes again is read again, and nothing but its last part counts in the end.
  induction entries generalizing draft with
  | nil =>
    rw [readLatest] at reads
    exact congrArg part (Except.ok.inj reads).symm
  | cons entry rest ih =>
    obtain ⟨key, value⟩ := entry
    simp only [readLatest, bind_ok_iff] at reads
    obtain ⟨k, isName, reads⟩ := reads
    rw [labelled_cons isName]
    cases found : fields.lookup k with
    | none =>
      obtain ⟨_, _, reads⟩ := by simpa only [found, bind_ok_iff] using reads
      refine .cons (fun same => ?_) (fun _ => rfl) (ih reads)
      have known := holds.named
      simp [← same, found] at known
    | some field =>
      obtain ⟨mid, read, reads⟩ := by simpa only [found, bind_ok_iff] using reads
      obtain ⟨before, after, split, -⟩ := List.lookup_eq_some_iff.mp found
      have member : (k, field) ∈ fields := by simp [split]
      exact .cons (fun same => part_read (holds.own field (same ▸ found) draft value) read)
        (fun other => part_kept (holds.others _ member other draft value) read) (ih reads)

/-- The names of JSON entries are their keys that are texts. -/
theorem named_eq (entries : List (Tree × Tree)) : Tree.named entries = labelled entries := by
  -- Both lists are made entry by entry, and differ only in how a key is read.
  refine congrArg (List.filterMap · entries) (funext fun entry => ?_)
  refine congrArg (Option.map (·, entry.2)) (Option.ext fun name => ?_)
  rw [Failure.toOption_eq_some_iff, ← Tree.readText_ok_iff]
  rfl

/-- What has been read from JSON entries that may be repeated is read from the last one of its name. -/
theorem readLatest_part {fields : List (String × (σ → Tree → Read σ))} {name : String}
    {part : σ → β} {read : Tree → Read β} (holds : HoldsLatest fields name part read)
    {entries : List (Tree × Tree)} {draft done : σ}
    (reads : readLatest fields draft entries = .ok done) :
    ReadPart read ((Tree.named entries).reverse.lookup name) (part draft) (part done) := by
  -- JSON entries are named by what their keys are read as.
  rw [named_eq]
  exact readLatest_labelled holds reads

/-- What has been read from parts in order is read from the one in its place. -/
theorem readPositional_part {fields : List (Field Tree σ)} {name : String} {part : σ → β}
    {read : Tree → Read β}
    (own : ∀ f ∈ fields, f.name = name → ∀ draft node, part <$> f.read draft node = read node)
    (others : ∀ f ∈ fields, f.name ≠ name → ∀ draft node,
      part <$> f.read draft node = (fun _ => part draft) <$> f.read draft node)
    {items : List Tree} {draft done : σ} (reads : readPositional fields draft items = .ok done) :
    ReadPart read (((fields.map (·.name)).zip items).reverse.lookup name) (part draft)
      (part done) := by
  -- Fields and items are used up side by side; the fields that are left over may be left out.
  induction fields generalizing draft items with
  | nil =>
    cases items with
    | nil => exact congrArg part (Except.ok.inj reads).symm
    | cons t rest => cases reads
  | cons f fields ih =>
    obtain ⟨ownFirst, own⟩ := List.forall_mem_cons.mp own
    obtain ⟨othersFirst, others⟩ := List.forall_mem_cons.mp others
    cases items with
    | nil =>
      rw [readPositional] at reads
      split at reads
      · simpa using ih own others reads
      · cases reads
    | cons t rest =>
      obtain ⟨mid, read, reads⟩ := (bind_ok_iff ..).mp reads
      exact .cons (fun same => part_read (ownFirst same draft t) read)
        (fun other => part_kept (othersFirst other draft t) read) (ih own others reads)

/-- What has been read of a structured value is read from the part that belongs to its field. -/
theorem record_part {fields : List (Field Tree σ)} {name : String} {part : σ → β}
    {read : Tree → Read β} (holds : Holds fields name part read) {empty done : σ} {node : Tree}
    (reads : record fields empty node = .ok done) :
    ReadPart read (node.part? (fields.map (·.name)) name) (part empty) (part done) := by
  -- Only objects and lists have parts to be read.
  obtain ⟨parts, isParts, reads⟩ := (bind_ok_iff ..).mp reads
  cases node with
  | object entries =>
    obtain rfl := Except.ok.inj isParts
    exact readNamed_part holds reads
  | array items =>
    obtain rfl := Except.ok.inj isParts
    exact readPositional_part holds.own holds.others reads
  | number value => cases value <;> cases isParts
  | text value => cases value <;> cases isParts
  | _ => cases isParts

end CsiOperator.Decode
