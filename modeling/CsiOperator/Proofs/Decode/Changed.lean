import CsiOperator.Proofs.Decode.Field
import CsiOperator.Proofs.Decode.Record

/-! A structured value is read as before where nothing of it has changed. -/

namespace CsiOperator.Decode

open Failure (bind_ok_iff pure_ok_iff)
open Json (Tree)

variable {ν σ β : Type}

/-- Nodes that are read into one draft are read into any. -/
def Steady (read : σ → ν → Read σ) : Prop :=
  ∀ draft node, (∃ later, read draft node = .ok later) → ∀ other, ∃ later, read other node = .ok later

/-- A reading that only puts what it reads into a draft is steady. -/
theorem Steady.of_put (put : σ → β → σ) (read : ν → Read β) :
    Steady fun draft node => do return put draft (← read node) := by
  -- The draft comes in only after the value has been read.
  rintro draft node ⟨later, reads⟩ other
  obtain ⟨value, read, -⟩ := (bind_ok_iff ..).mp reads
  exact ⟨put other value, (bind_ok_iff ..).mpr ⟨value, read, rfl⟩⟩

/-- What is given under the names of the fields can be read. -/
def Readable (fields : List (String × (σ → ν → Read σ))) (given : String → Option ν) : Prop :=
  ∀ f ∈ fields, ∀ node, given f.1 = some node → ∀ draft, ∃ later, f.2 draft node = .ok later

/-- What has been read can be read. -/
theorem readable_of_fill {fields : List (String × (σ → ν → Read σ))}
    (steady : ∀ f ∈ fields, Steady f.2) {given : String → Option ν} {draft done : σ}
    (reads : fill fields draft given = .ok done) : Readable fields given := by
  -- Induction on the fields; a field that read its node into the draft it met reads it into any
  -- other.
  induction fields generalizing draft with
  | nil => exact fun _ member => absurd member (by simp)
  | cons f rest ih =>
    obtain ⟨name, read⟩ := f
    obtain ⟨first, steady⟩ := List.forall_mem_cons.mp steady
    rw [fill] at reads
    cases found : given name with
    | none =>
      rw [found] at reads
      refine List.forall_mem_cons.mpr ⟨fun node there => ?_, ih steady reads⟩
      exact absurd (found.symm.trans there) (by simp)
    | some node =>
      rw [found] at reads
      obtain ⟨mid, read, reads⟩ := (bind_ok_iff ..).mp reads
      refine List.forall_mem_cons.mpr ⟨fun other there => ?_, ih steady reads⟩
      obtain rfl : node = other := Option.some.inj (found.symm.trans there)
      exact first draft node ⟨mid, read⟩

/-- What can be read is read. -/
theorem Readable.fill {fields : List (String × (σ → ν → Read σ))} {given : String → Option ν}
    (readable : Readable fields given) (draft : σ) :
    ∃ done, fill fields draft given = .ok done := by
  -- The drafts differ from those of the first reading, so the claim is general over them.
  induction fields generalizing draft with
  | nil => exact ⟨draft, rfl⟩
  | cons f rest ih =>
    obtain ⟨name, read⟩ := f
    obtain ⟨first, others⟩ := List.forall_mem_cons.mp readable
    rw [Decode.fill]
    cases found : given name with
    | none => exact ih others draft
    | some node =>
      obtain ⟨mid, reads⟩ := first node found draft
      obtain ⟨done, later⟩ := ih others mid
      exact ⟨done, (bind_ok_iff ..).mpr ⟨mid, reads, later⟩⟩

/-- What changes under one name can be read if the field of that name can read it. -/
theorem Readable.change {fields : List (String × (σ → Tree → Read σ))} {given other : String → Option Tree}
    (readable : Readable fields given) {name : String} (same : ∀ n, n ≠ name → other n = given n)
    {part : σ → β} {read : Tree → Read β} (holds : HoldsLatest fields name part read)
    (names : (fields.map (·.1)).Nodup)
    (reads : ∀ node, other name = some node → ∃ value, read node = .ok value) :
    Readable fields other := by
  -- A field can be read at any draft or at none, so that the draft does not matter here.
  intro f member node there draft
  -- The field of the changed name is asked anew, and every other field sees what it saw.
  by_cases here : f.1 = name
  · obtain ⟨value, reads⟩ := reads node (here ▸ there)
    have own := holds.own f.2 (here ▸ lookup_of_mem names member) draft node
    cases outcome : f.2 draft node with
    | ok later => exact ⟨later, rfl⟩
    | error fault =>
      rw [outcome, reads] at own
      cases own
  · exact readable f member node ((same f.1 here).symm.trans there) draft

/-- Fields are read one part of them after another. -/
theorem fill_append (fields rest : List (String × (σ → ν → Read σ))) (draft : σ)
    (given : String → Option ν) :
    fill (fields ++ rest) draft given = (do fill rest (← fill fields draft given) given) := by
  -- Induction on the fields in front, each of which hands its draft on.
  induction fields generalizing draft with
  | nil => rfl
  | cons f more ih =>
    obtain ⟨name, read⟩ := f
    rw [List.cons_append, fill, fill]
    cases given name with
    | none => exact ih draft
    | some node =>
      show (read draft node >>= fun mid => fill (more ++ rest) mid given) = _
      simp only [ih]
      exact (bind_assoc ..).symm

/-- Fields that leave a part alone leave it as it was. -/
theorem fill_kept {fields : List (String × (σ → Tree → Read σ))} {part : σ → β}
    (others : ∀ f ∈ fields, ∀ draft node,
      part <$> f.2 draft node = (fun _ => part draft) <$> f.2 draft node)
    {given : String → Option Tree} {draft done : σ} (reads : fill fields draft given = .ok done) :
    part done = part draft := by
  -- Induction on the fields: each hands on a draft with the same part.
  induction fields generalizing draft with
  | nil => exact Except.ok.inj reads ▸ rfl
  | cons f rest ih =>
    obtain ⟨first, others⟩ := List.forall_mem_cons.mp others
    rw [fill] at reads
    split at reads
    · exact ih others reads
    · obtain ⟨mid, read, later⟩ := (bind_ok_iff ..).mp reads
      exact (ih others later).trans (part_kept (first _ _) read)

/-- A part of what is read has been read from what is given under its name. -/
theorem fill_part {fields : List (String × (σ → Tree → Read σ))} {name : String} {part : σ → β}
    {read : Tree → Read β} (holds : HoldsLatest fields name part read)
    (names : (fields.map (·.1)).Nodup) {given : String → Option Tree} {draft done : σ}
    (reads : fill fields draft given = .ok done) :
    match given name with
    | none => part done = part draft
    | some node => read node = .ok (part done) := by
  -- Only the field of that name can change the part.
  obtain ⟨named, own, others⟩ := holds
  -- The field of that name stands between fields with other names.
  obtain ⟨field, found⟩ := Option.isSome_iff_exists.mp named
  obtain ⟨before, after, rfl, absent⟩ := List.lookup_eq_some_iff.mp found
  rw [List.map_append, List.map_cons] at names
  have fresh : ∀ f ∈ after, f.1 ≠ name := by
    rintro f member rfl
    obtain ⟨-, distinct, -⟩ := List.nodup_append.mp names
    exact (List.nodup_cons.mp distinct).1 (List.mem_map.mpr ⟨f, member, rfl⟩)
  have early : ∀ f ∈ before, ∀ draft node,
      part <$> f.2 draft node = (fun _ => part draft) <$> f.2 draft node := fun f member =>
    others f (by simp [member]) fun same => by simpa [same] using absent f member
  have late : ∀ f ∈ after, ∀ draft node,
      part <$> f.2 draft node = (fun _ => part draft) <$> f.2 draft node := fun f member =>
    others f (by simp [member]) (fresh f member)
  rw [fill_append] at reads
  obtain ⟨mid, first, reads⟩ := (bind_ok_iff ..).mp reads
  have unchanged : part mid = part draft := fill_kept early first
  rw [fill] at reads
  split at reads
  · rename_i none
    rw [none]
    exact (fill_kept late reads).trans unchanged
  · rename_i node there
    obtain ⟨mid', reading, later⟩ := (bind_ok_iff ..).mp reads
    simp only [there, fill_kept late later]
    exact part_read (own field found mid node) reading

/-- A part is the same after two readings if the same is given under its name. -/
theorem fill_same {fields : List (String × (σ → Tree → Read σ))} {name : String} {part : σ → β}
    {read : Tree → Read β} (holds : HoldsLatest fields name part read)
    (names : (fields.map (·.1)).Nodup) {given other : String → Option Tree} {draft done done' : σ}
    (same : given name = other name) (reads : fill fields draft given = .ok done)
    (rereads : fill fields draft other = .ok done') : part done = part done' := by
  -- Both readings give the part as a function of what stands under its name.
  have first := fill_part holds names reads
  have second := fill_part holds names rereads
  rw [← same] at second
  cases found : given name with
  | none =>
    simp only [found] at first second
    exact first.trans second.symm
  | some node =>
    simp only [found] at first second
    exact Except.ok.inj (first.symm.trans second)

end CsiOperator.Decode
