import CsiOperator.Ledger
import CsiOperator.Proofs.Publication.Publish

/-! A publication makes up for those before it that were skipped, since the ledger only grows. -/

namespace CsiOperator.Publication

open Api (RelatedObjects)

/-- The references of the record once ours have been merged into it. -/
def merged (current ours : List RelatedObject) : List RelatedObject :=
  (merge current ours).getD current

/-- Merging appends what is missing, if anything is. -/
theorem merged_eq (current ours : List RelatedObject) :
    merged current ours = current ++ missing current ours := by
  -- Without anything missing there is no merged list, and the current one stands for it.
  simp only [merged, merge, missing]
  split
  · next nothing => rw [nothing, List.append_nil, Option.getD_none]
  · rfl

/-- There is nothing to merge exactly when nothing is missing. -/
theorem merge_eq_none_iff (current ours : List RelatedObject) :
    merge current ours = none ↔ missing current ours = [] := by
  -- The merge asks whether the list of what is missing is empty.
  simp only [merge, missing]
  split <;> simp_all

/-- References that come later are missing behind those that come first. -/
theorem missing_append (current first later : List RelatedObject) :
    missing current (first ++ later) = missing current first ++ missing current later :=
  List.filter_append ..

/-- Nothing is missing of what has been merged. -/
theorem missing_merged (current ours : List RelatedObject) :
    missing (merged current ours) ours = [] := by
  -- What has been merged has every reference of ours, so the filter leaves none.
  rw [merged_eq, missing, List.filter_eq_nil_iff]
  intro o member
  have listed : o ∈ current ++ missing current ours := mem_append_missing member
  simpa only [Bool.not_eq_true', List.contains_eq_mem, decide_eq_false_iff_not, not_not]
    using listed

/-- What has been merged leaves other references missing or not as they were. -/
theorem missing_merged_other {ours others : List RelatedObject} (apart : ours.Disjoint others)
    (current : List RelatedObject) :
    missing (merged current ours) others = missing current others := by
  -- What is added is ours, so it does not make any of the others present.
  rw [merged_eq]
  refine List.filter_congr fun o member => ?_
  have other : o ∉ missing current ours :=
    fun inside => apart (List.mem_filter.mp inside).1 member
  simp [other]

/-- Merging the references of a grown ledger makes up for those that it had before. -/
theorem merged_merged {ours grown : List RelatedObject} (grows : ours <+: grown)
    (distinct : grown.Nodup) (current : List RelatedObject) :
    merged (merged current ours) grown = merged current grown := by
  -- A grown ledger has the old references in front, so these are merged first.
  obtain ⟨later, rfl⟩ := grows
  have apart : ours.Disjoint later := List.disjoint_of_nodup_append distinct
  -- The old references are no longer missing, and the new ones are missing as before.
  calc merged (merged current ours) (ours ++ later)
      = merged current ours ++ missing (merged current ours) (ours ++ later) := merged_eq _ _
    _ = merged current ours ++ missing current later := by
        rw [missing_append, missing_merged, missing_merged_other apart, List.nil_append]
    _ = merged current (ours ++ later) := by
        rw [merged_eq, merged_eq, missing_append, List.append_assoc]

/-- Merging the beginnings of a ledger first makes no difference to merging all of it. -/
theorem foldl_merged {kept : List (List RelatedObject)} {last : List RelatedObject}
    (grows : ∀ ours ∈ kept, ours <+: last) (distinct : last.Nodup) (current : List RelatedObject) :
    (kept ++ [last]).foldl merged current = merged current last := by
  -- By induction on the publications before the last, each of which the last makes up for.
  induction kept generalizing current with
  | nil => rfl
  | cons ours rest ih =>
    rw [List.cons_append, List.foldl_cons, ih fun other member => grows other (.tail _ member)]
    exact merged_merged (grows ours (.head _)) distinct current

/--
Publications that are skipped make no difference once a later one takes place.

The ledger grows from one to the next, and which of them are skipped does not matter as long as the
last one is not. What it leaves is the record as it was at first with the missing references behind it.
-/
theorem deferred_publications_agree (current : List RelatedObject)
    {ledgers kept : List (List RelatedObject)} {last : List RelatedObject}
    (grows : (ledgers ++ [last]).IsChain (· <+: ·))
    (distinct : ∀ ours ∈ ledgers ++ [last], ours.Nodup) (skips : kept.Sublist ledgers) :
    (kept ++ [last]).foldl merged current = merged current last ∧
    -- The record begins with what it has had, and lists what it has had and what the ledger has.
    current <+: merged current last ∧ (∀ o, o ∈ merged current last ↔ o ∈ current ∨ o ∈ last) ∧
    -- It repeats only what it has repeated, and not more often.
    (∀ o, 1 < (merged current last).count o →
      (merged current last).count o = current.count o) ∧
    -- Nothing is left to be merged.
    merge (merged current last) last = none := by
  -- Every ledger is the beginning of the last, so the lemma on merged beginnings applies.
  have once : last.Nodup := distinct last (by simp)
  have begins : ∀ ours ∈ ledgers, ours <+: last := by
    -- Along the chain every ledger begins with the earlier ones.
    let _ : @Trans (List RelatedObject) _ _ (· <+: ·) (· <+: ·) (· <+: ·) := ⟨List.IsPrefix.trans⟩
    obtain ⟨-, -, ordered⟩ := List.pairwise_append.mp (List.isChain_iff_pairwise.mp grows)
    exact fun ours member => ordered ours member last (by simp)
  refine ⟨foldl_merged (fun ours member => begins ours (skips.subset member)) once current, ?_, ?_,
    ?_, ?_⟩
  · rw [merged_eq]
    exact List.prefix_append _ _
  · intro o
    rw [merged_eq, List.mem_append]
    constructor
    · exact Or.imp_right fun new => (List.mem_filter.mp new).1
    · rintro (old | ours)
      · exact .inl old
      · exact List.mem_append.mp (mem_append_missing ours)
  · intro o repeated
    rw [merged_eq] at repeated ⊢
    by_cases present : o ∈ current
    · -- What is there is not missing.
      have absent : o ∉ missing current last := by simp [missing, present]
      rw [List.count_append, List.count_eq_zero.mpr absent, Nat.add_zero]
    · -- What is new has been appended once.
      have none_before : current.count o = 0 := List.count_eq_zero.mpr present
      have single : (current ++ missing current last).count o ≤ 1 :=
        count_append_missing once (by omega)
      omega
  · rw [merge_eq_none_iff]
    exact missing_merged current last

/-- Two of four publications are skipped, and the record has references of others as well. -/
theorem deferred_publications_agree_skipped :
    let object := RelatedObject.clusterScoped "operator.openshift.io" "clustercsidrivers"
    let other := RelatedObject.clusterScoped "" "namespaces" "openshift"
    let last := [object "c", object "a", object "b"]
    let current := [other, object "a", other]
    [[object "c"], last].foldl merged current = [other, object "a", other, object "c", object "b"] ∧
      merge [other, object "a", other, object "c", object "b"] last = none := by
  -- The ledgers are put together by evaluation, and the law says what they leave.
  intro object other last current
  let ledgers := [[], [object "c"], [object "c", object "a"]]
  have whole : merged current last = [other, object "a", other, object "c", object "b"] := by
    decide +kernel
  have grows : (ledgers ++ [last]).IsChain (· <+: ·) := by decide +kernel
  have distinct : ∀ ours ∈ ledgers ++ [last], ours.Nodup := by decide +kernel
  have skips : [[object "c"]].Sublist ledgers := by decide +kernel
  obtain ⟨agree, -, -, -, nothing⟩ :=
    deferred_publications_agree current grows distinct skips
  rw [whole] at agree nothing
  exact ⟨agree, nothing⟩

/-- How a publication fares with the record. -/
inductive Fate where
  /-- The record is there in some version, and its requests are served. -/
  | served (version : Option String)
  /-- There is no record. -/
  | absent
  /-- The record cannot be read. -/
  | unread (failure : Failure)
  /-- The record cannot be written, perhaps because it has another version by then. -/
  | unwritten (version : Option String) (failure : Failure)

namespace Fate

/-- What comes back for the calls of a publication, and what they leave of the record. -/
def answer (fate : Fate) (ledger : Ledger) :
    (call : Call) → StateM (List RelatedObject) call.Answer
  -- Only a publication that is served changes the record.
  | .ledger => fun current => (ledger.snapshot, current)
  | .read => fun current =>
    match fate with
    | .absent => (.ok none, current)
    | .unread failure => (.error failure, current)
    | .served version | .unwritten version _ => (.ok (some ⟨version, current⟩), current)
  | .write _ objects => fun current =>
    match fate with
    | .unwritten _ failure => (.error failure, current)
    | .served _ | .absent | .unread _ => (.ok (), objects)

/-- What a publication leaves of the record. -/
def leaves (fate : Fate) (ledger : Ledger) (current : List RelatedObject) : List RelatedObject :=
  ((publish.run (fate.answer ledger)).run current).2

/-- The publication takes place. -/
def isServed : Fate → Bool
  | .served _ => true
  | _ => false

/-- A publication that is served merges the ledger into the record, and any other leaves it alone. -/
theorem leaves_eq (fate : Fate) (ledger : Ledger) (current : List RelatedObject) :
    fate.leaves ledger current =
      if fate.isServed then merged current ledger.entries else current := by
  -- The first question is for the ledger, and without references nothing else is asked.
  rw [leaves, publish_eq, Dialogue.run_ask_state]
  show ((Dialogue.run (fate.answer ledger)
    (if (!!ledger.isEmpty) = true then _ else _)).run current).2 = _
  cases vacant : ledger.isEmpty with
  | true =>
    have nothing : ledger.entries = [] := by simpa [Ledger.isEmpty] using vacant
    have same : merged current ledger.entries = current := by rw [nothing]; rfl
    rw [same, ite_self]
    rfl
  | false =>
    -- Only if the read brings the record and the write is served does it change.
    cases fate with
    | absent | unread => rfl
    | served version =>
      show ((Dialogue.run ((Fate.served version).answer ledger)
        (having ledger.entries (.ok (some ⟨version, current⟩)))).run current).2 =
          merged current ledger.entries
      simp only [having, merged]
      cases merge current ledger.entries <;> rfl
    | unwritten version failure =>
      show ((Dialogue.run ((Fate.unwritten version failure).answer ledger)
        (having ledger.entries (.ok (some ⟨version, current⟩)))).run current).2 = current
      simp only [having]
      cases merge current ledger.entries <;> rfl

end Fate

/-- References that are recorded, and a publication after them. -/
structure Turn where
  /-- The references. -/
  objects : List RelatedObject
  /-- How the publication fares. -/
  fate : Fate

/-- The ledger with more references. -/
def recordAll (ledger : Ledger) (objects : List RelatedObject) : Ledger :=
  objects.foldl (fun ledger object => (ledger.record object).2) ledger

/-- The ledger and the record after a turn. -/
def Turn.next (t : Turn) (state : Ledger × List RelatedObject) : Ledger × List RelatedObject :=
  -- The ledger grows before the publication, which takes it as it is then.
  let ledger := recordAll state.1 t.objects
  (ledger, t.fate.leaves ledger state.2)

/-- Recording references makes the ledger grow, and never repeats one. -/
theorem recordAll_grows {ledger : Ledger} (distinct : ledger.entries.Nodup)
    (objects : List RelatedObject) : ledger.entries <+: (recordAll ledger objects).entries ∧
      (recordAll ledger objects).entries.Nodup := by
  -- By induction on the references, each of which is there already or is put at the end.
  induction objects generalizing ledger with
  | nil => exact ⟨List.prefix_rfl, distinct⟩
  | cons object rest ih =>
    by_cases inside : object ∈ ledger.entries
    · have same : (ledger.record object).2 = ledger := by simp [Ledger.record, inside]
      rw [recordAll, List.foldl_cons, same]
      exact ih distinct
    · have more : (ledger.record object).2.entries = ledger.entries ++ [object] := by
        simp [Ledger.record, inside]
      have apart : (ledger.record object).2.entries.Nodup := by
        rw [more, List.nodup_append']
        exact ⟨distinct, List.nodup_singleton object, by simpa using inside⟩
      obtain ⟨grows, once⟩ := ih apart
      refine ⟨List.IsPrefix.trans ?_ grows, once⟩
      rw [more]
      exact List.prefix_append _ _

/-- While the ledger grows, what the record is bound to become does not depend on what is skipped. -/
theorem Turn.next_merged (t : Turn) {state : Ledger × List RelatedObject}
    (initial : List RelatedObject) (distinct : state.1.entries.Nodup)
    (bound : merged state.2 state.1.entries = merged initial state.1.entries) :
    merged (t.next state).2 (t.next state).1.entries = merged initial (t.next state).1.entries := by
  -- The old references of the turn's ledger are made up for by its grown one.
  obtain ⟨ledger, current⟩ := state
  obtain ⟨grows, once⟩ := recordAll_grows distinct t.objects
  have later : merged current (recordAll ledger t.objects).entries =
      merged initial (recordAll ledger t.objects).entries := by
    rw [← merged_merged grows once current, bound, merged_merged grows once initial]
  simp only [next, Fate.leaves_eq]
  split
  · -- What has just been merged needs no merging again.
    rw [merged_merged List.prefix_rfl once, later]
  · exact later

/-- Whatever publications come to, one that is served leaves what the first record and the ledger of
the moment come to. -/
theorem served_catches_up (initial : List RelatedObject) (turns : List Turn)
    (objects : List RelatedObject) (version : Option String) :
    let before := turns.foldl (fun state t => t.next state) (Ledger.empty, initial)
    let after := Turn.next ⟨objects, .served version⟩ before
    after.2 = merged initial after.1.entries := by
  -- Between the turns the ledger repeats nothing, and the record is bound to the same end.
  have kept : ∀ state : Ledger × List RelatedObject, state.1.entries.Nodup →
      merged state.2 state.1.entries = merged initial state.1.entries →
      let before := turns.foldl (fun state t => t.next state) state
      before.1.entries.Nodup ∧ merged before.2 before.1.entries = merged initial before.1.entries := by
    induction turns with
    | nil => exact fun state distinct bound => ⟨distinct, bound⟩
    | cons t rest ih =>
      intro state distinct bound
      exact ih _ (recordAll_grows distinct t.objects).2 (t.next_merged initial distinct bound)
  intro before after
  obtain ⟨distinct, bound⟩ := kept (Ledger.empty, initial) List.nodup_nil rfl
  have once : after.1.entries.Nodup := (recordAll_grows distinct objects).2
  have served : after.2 = merged before.2 after.1.entries := Fate.leaves_eq (.served version) _ _
  calc after.2
      = merged after.2 after.1.entries := by
        rw [served, merged_merged List.prefix_rfl once]
    _ = merged initial after.1.entries :=
        Turn.next_merged ⟨objects, .served version⟩ initial distinct bound

end CsiOperator.Publication
