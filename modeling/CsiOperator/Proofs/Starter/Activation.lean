import CsiOperator.Proofs.Descriptor.Acceptance
import CsiOperator.Starter.Basic

/-! Activation starts exactly the bundles that are due, and records each reference beforehand. -/

namespace CsiOperator

/-- A reference that is new goes to the end of the ledger. -/
theorem Ledger.record_new {l : Ledger} {object : RelatedObject} (new : object ∉ l.entries) :
    l.record object = (true, ⟨l.entries ++ [object]⟩) := by
  -- Only a reference that is listed already would be dropped.
  simp [Ledger.record, new]

namespace Starter

variable {isDue : Descriptor → Bool} {ledger : Ledger} {bundle : Bundle} {rest : List Bundle}

/-- A bundle starts when it does not run yet and is due. -/
def Starts (isDue : Descriptor → Bool) (bundle : Bundle) : Bool :=
  !bundle.running && isDue bundle.descriptor

/-- A bundle that starts is recorded first, and the later bundles see its reference. -/
theorem startDue_cons_starts (starts : Starts isDue bundle = true) :
    startDue isDue ledger (bundle :: rest) =
      let recorded := (ledger.record bundle.descriptor.relatedObject).2
      let later := startDue isDue recorded rest
      ({ bundle with running := true } :: later.1, later.2.1,
        ⟨bundle.descriptor, recorded⟩ :: later.2.2) := by
  -- Both sides ask whether the bundle starts, and the assumption says that it does.
  simp only [Starts] at starts
  simp [startDue, starts]

/-- A bundle that does not start leaves the ledger to the later bundles as it is. -/
theorem startDue_cons_stays (stays : Starts isDue bundle = false) :
    startDue isDue ledger (bundle :: rest) =
      let later := startDue isDue ledger rest
      (bundle :: later.1, later.2.1, later.2.2) := by
  -- Both sides ask whether the bundle starts, and the assumption says that it does not.
  simp only [Starts] at stays
  simp [startDue, stays]

/-- Activation keeps every bundle, and those that run afterwards ran before or are due. -/
theorem startDue_bundles (ledger : Ledger) (bundles : List Bundle) :
    (startDue isDue ledger bundles).1 =
      bundles.map fun b => { b with running := b.running || isDue b.descriptor } := by
  -- By induction on the bundles, with a ledger that each start may change.
  induction bundles generalizing ledger with
  | nil => rfl
  | cons bundle rest ih =>
    rcases bundle with ⟨descriptor, running⟩
    -- A bundle that does not start runs already or is not due, so its flag stays as it is.
    cases running <;> cases due : isDue descriptor
    · simp [startDue_cons_stays (show Starts isDue ⟨descriptor, false⟩ = false from due), due, ih]
    · simp [startDue_cons_starts (show Starts isDue ⟨descriptor, false⟩ = true from due), due, ih]
    · simp [startDue_cons_stays (show Starts isDue ⟨descriptor, true⟩ = false from rfl), ih]
    · simp [startDue_cons_stays (show Starts isDue ⟨descriptor, true⟩ = false from rfl), ih]

/-- The bundles that activation starts, in the order in which they are listed. -/
theorem startDue_starts (ledger : Ledger) (bundles : List Bundle) :
    (startDue isDue ledger bundles).2.2.map (·.descriptor) =
      (bundles.filter (Starts isDue)).map (·.descriptor) := by
  -- Whether a bundle starts does not depend on the ledger.
  induction bundles generalizing ledger with
  | nil => rfl
  | cons bundle rest ih =>
    cases starts : Starts isDue bundle with
    | true => simp [startDue_cons_starts starts, starts, ih]
    | false => simp [startDue_cons_stays starts, starts, ih]

/-- No two bundles have one driver, and those that do not run yet are absent from the ledger. -/
def Unrecorded (ledger : Ledger) (bundles : List Bundle) : Prop :=
  -- Drivers are kept apart by name, as their references are.
  (bundles.map (·.descriptor.driver)).Nodup ∧
    ∀ b ∈ bundles, b.running = false → b.descriptor.relatedObject ∉ ledger.entries

/-- What holds of all bundles holds of the later ones. -/
theorem Unrecorded.tail (absent : Unrecorded ledger (bundle :: rest)) : Unrecorded ledger rest :=
  ⟨(List.nodup_cons.mp absent.1).2, fun b member => absent.2 b (List.mem_cons_of_mem _ member)⟩

/-- A bundle that starts is new to the ledger. -/
theorem Unrecorded.new (absent : Unrecorded ledger (bundle :: rest))
    (starts : Starts isDue bundle = true) : bundle.descriptor.relatedObject ∉ ledger.entries := by
  -- Only a bundle that does not run yet starts, and those are absent from the ledger.
  have idle : bundle.running = false := by simpa using (Bool.and_eq_true_iff.mp starts).1
  exact absent.2 bundle List.mem_cons_self idle

/-- Recording the reference of the first bundle leaves the later ones absent from the ledger. -/
theorem Unrecorded.record (absent : Unrecorded ledger (bundle :: rest)) :
    Unrecorded ⟨ledger.entries ++ [bundle.descriptor.relatedObject]⟩ rest := by
  -- Another bundle has another driver, and therefore another reference.
  refine ⟨absent.tail.1, fun b member idle recorded => ?_⟩
  rcases List.mem_append.mp recorded with earlier | same
  · exact absent.tail.2 b member idle earlier
  · have driver := Descriptor.relatedObject_inj.mp (List.mem_singleton.mp same)
    exact (List.nodup_cons.mp absent.1).1 (List.mem_map.mpr ⟨b, member, driver⟩)

/-- Activation appends the references of the bundles that it starts to the ledger. -/
theorem startDue_ledger {bundles : List Bundle} (absent : Unrecorded ledger bundles) :
    (startDue isDue ledger bundles).2.1.entries =
      ledger.entries ++ (startDue isDue ledger bundles).2.2.map (·.descriptor.relatedObject) := by
  -- Every reference that is recorded is new, so none of them is dropped.
  induction bundles generalizing ledger with
  | nil => simp [startDue]
  | cons bundle rest ih =>
    cases starts : Starts isDue bundle with
    | true =>
      simp [startDue_cons_starts starts, Ledger.record_new (absent.new starts), ih absent.record]
    | false =>
      -- Nothing is recorded for this bundle, so the later ones find the ledger as it is.
      simpa [startDue_cons_stays starts] using ih absent.tail

/-- At every start the ledger has the references up to the one of the bundle that starts. -/
theorem startDue_moments {bundles : List Bundle} (absent : Unrecorded ledger bundles) {k : Nat}
    {start : Start} (found : (startDue isDue ledger bundles).2.2[k]? = some start) :
    start.ledger.entries = ledger.entries ++
      ((startDue isDue ledger bundles).2.2.take (k + 1)).map (·.descriptor.relatedObject) := by
  -- By induction on the bundles; a start moves all later moments back by one place.
  induction bundles generalizing ledger k with
  | nil => simp [startDue] at found
  | cons bundle rest ih =>
    cases starts : Starts isDue bundle with
    | true =>
      simp only [startDue_cons_starts starts, Ledger.record_new (absent.new starts)] at found ⊢
      -- The first start is the bundle at hand, and the later ones see its reference.
      cases k with
      | zero =>
        simp only [List.getElem?_cons_zero, Option.some.injEq] at found
        simp [← found]
      | succ k => simpa using ih absent.record (by simpa using found)
    | false =>
      simp only [startDue_cons_stays starts] at found ⊢
      exact ih absent.tail found

end Starter

end CsiOperator
