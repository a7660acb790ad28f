import CsiOperator.Descriptor.Builtin
import CsiOperator.Proofs.Starter.Visit
import Mathlib.Data.List.Nodup

/-! Calls that are made one after another, on an operator as the earlier ones leave it. -/

namespace CsiOperator.Starter

/-- What calls come to that are made one after another. -/
def turns (s : Starter) : List Visit → List Turn
  -- Each call finds the operator as the one before has left it.
  | [] => []
  | v :: rest => v.turn s :: turns (v.turn s).starter rest

/-- The operator after calls that are made one after another. -/
def after (s : Starter) : List Visit → Starter
  | [] => s
  | v :: rest => after (v.turn s).starter rest

/-- The starts of a run in order. -/
def starts (s : Starter) (visits : List Visit) : List Start :=
  (s.turns visits).flatMap (·.starts)

/-- The starts of a run are those of its first call followed by those of the others. -/
theorem starts_cons (s : Starter) (v : Visit) (rest : List Visit) :
    s.starts (v :: rest) = (v.turn s).starts ++ (v.turn s).starter.starts rest := rfl

/-- Later calls find the operator as the earlier ones leave it. -/
theorem after_append (s : Starter) (earlier later : List Visit) :
    s.after (earlier ++ later) = (s.after earlier).after later := by
  -- By induction on the earlier calls, with the operator that each of them leaves.
  induction earlier generalizing s with
  | nil => rfl
  | cons v rest ih => exact ih _

/-- A run is its first calls followed by the others. -/
theorem turns_append (s : Starter) (earlier later : List Visit) :
    s.turns (earlier ++ later) = s.turns earlier ++ (s.after earlier).turns later := by
  -- By induction on the earlier calls, with the operator that each of them leaves.
  induction earlier generalizing s with
  | nil => rfl
  | cons v rest ih => exact congrArg (v.turn s :: ·) (ih _)

/-- The starts of a run are those of its first calls followed by those of the others. -/
theorem starts_append (s : Starter) (earlier later : List Visit) :
    s.starts (earlier ++ later) = s.starts earlier ++ (s.after earlier).starts later := by
  simp [starts, turns_append]

/-- There is one turn for every call. -/
@[simp] theorem turns_length (s : Starter) (visits : List Visit) :
    (s.turns visits).length = visits.length := by
  -- By induction on the calls, each of which makes one turn.
  induction visits generalizing s with
  | nil => rfl
  | cons v rest ih => simp [turns, ih]

/-- A call of a run is made on the operator as the calls before it leave it. -/
theorem turns_getElem? (s : Starter) (visits : List Visit) (i : Nat) :
    (s.turns visits)[i]? = visits[i]?.map fun v => v.turn (s.after (visits.take i)) := by
  -- By induction on the calls, down to the one that is asked about.
  induction visits generalizing s i with
  | nil => rfl
  | cons v rest ih =>
    -- The first call is made on the operator itself, and the others one call later.
    cases i with
    | zero => rfl
    | succ i => simpa [turns, after] using ih _ i

/-- No call changes the catalog. -/
@[simp] theorem after_catalog (s : Starter) (visits : List Visit) :
    (s.after visits).catalog = s.catalog := by
  -- By induction on the calls, none of which writes the catalog.
  induction visits generalizing s with
  | nil => rfl
  | cons v rest ih => simp [after, ih, Visit.turn_eq]

/-- An operator begins with a bundle for every driver, none of them running, and an empty ledger. -/
theorem new_ok {ds : List Descriptor} {s : Starter} (accepted : new ds = .ok s) :
    Descriptor.validateAll ds = .ok () ∧ s.bundles = (ds.map fun d => ⟨d, false⟩) ∧
      s.ledger = Ledger.empty := by
  -- Only the check of the drivers can refuse, and what is built behind it is known.
  unfold new at accepted
  cases valid : Descriptor.validateAll ds with
  | error failure => simp [valid, Bind.bind, Except.bind] at accepted
  | ok checked =>
    simp only [valid, Bind.bind, Except.bind, Pure.pure, Except.pure, Except.ok.injEq] at accepted
    simp [← accepted]

/-- The operator of the builtin drivers before its first call. -/
def builtin : Starter :=
  ⟨Descriptor.builtin.map fun d => ⟨d, false⟩, Ledger.empty, FeatureCatalog.builtin⟩

/-- The builtin drivers are accepted. -/
theorem new_builtin : new Descriptor.builtin = .ok builtin := by decide +kernel

namespace Visit

/-- A sync of a managed operator on a platform, with no feature set selected. -/
def managedOn (platform : Platform) : Visit where
  -- No feature is enabled, so only drivers without a feature are eligible.
  managementState := .ok (some .managed)
  infrastructure name := .ok (Infrastructure.withPlatform name (some platform))
  featureGate name := .ok (FeatureGate.withFeatureSet name "")
  demand := .sync

/-- A sync of a managed operator that cannot read the feature gate. -/
def ungatedOn (platform : Platform) : Visit :=
  { managedOn platform with featureGate := fun name => .error (.notFound "FeatureGate" name) }

end Visit

end CsiOperator.Starter
