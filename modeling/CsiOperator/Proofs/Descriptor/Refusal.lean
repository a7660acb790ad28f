import CsiOperator.Proofs.Descriptor.Acceptance
import CsiOperator.Proofs.Failure
import Mathlib.Data.List.Perm.Basic

/-! A list of drivers is refused for the first driver that cannot follow those before it. -/

namespace CsiOperator.Descriptor

/-- A text with something to see in it. -/
def Visible (s : String) : Prop :=
  ∃ c ∈ s.toList, Text.isBlank c = false

/-- A text is blank when there is nothing to see in it. -/
theorem isBlankText_iff (s : String) : Text.isBlankText s = true ↔ ¬ Visible s := by
  simp [Text.isBlankText, Visible]

/-- Why a driver is refused after others that have been accepted: the first of its faults. -/
inductive Refused (before : List Descriptor) (d : Descriptor) : Failure → Prop
  /-- The name of its bundle is blank. Only this fault is told of the driver instead of the bundle. -/
  | blankPrefix : ¬ Visible d.conditionPrefix →
    Refused before d (.validation d.driver "conditionPrefix must not be empty")
  /-- Its own name is blank. -/
  | blankDriver : Visible d.conditionPrefix → ¬ Visible d.driver →
    Refused before d (.validation d.conditionPrefix "csiDriverName must not be empty")
  /-- Its platform is not recognized. -/
  | unknownPlatform : Visible d.conditionPrefix → Visible d.driver → d.platform = .unknown →
    Refused before d (.validation d.conditionPrefix "platform is not a recognized platform type")
  /-- An earlier driver has the name of its bundle. -/
  | usedPrefix : Visible d.conditionPrefix → Visible d.driver → d.platform ≠ .unknown →
    (∃ e ∈ before, e.conditionPrefix = d.conditionPrefix) →
    Refused before d (.validation d.conditionPrefix "duplicate conditionPrefix")
  /-- An earlier driver has its name. -/
  | usedDriver : Visible d.conditionPrefix → Visible d.driver → d.platform ≠ .unknown →
    (∀ e ∈ before, e.conditionPrefix ≠ d.conditionPrefix) →
    (∃ e ∈ before, e.driver = d.driver) →
    Refused before d (.validation d.conditionPrefix ("duplicate csiDriverName " ++ d.driver))

/-- It does not matter in which order the earlier drivers have been accepted. -/
theorem Refused.of_mem_iff {before other : List Descriptor} {d : Descriptor} {failure : Failure}
    (refused : Refused before d failure) (same : ∀ e, e ∈ before ↔ e ∈ other) :
    Refused other d failure := by
  -- The earlier drivers are only asked for one with some name.
  cases refused with
  | blankPrefix blank => exact .blankPrefix blank
  | blankDriver visible blank => exact .blankDriver visible blank
  | unknownPlatform visible named unknown => exact .unknownPlatform visible named unknown
  | usedPrefix visible named known used =>
    obtain ⟨e, member, same_name⟩ := used
    exact .usedPrefix visible named known ⟨e, (same e).mp member, same_name⟩
  | usedDriver visible named known unused used =>
    obtain ⟨e, member, same_name⟩ := used
    exact .usedDriver visible named known (fun e member => unused e ((same e).mpr member))
      ⟨e, (same e).mp member, same_name⟩

/-- A driver is valid by itself when its names are visible and its platform is recognized. -/
theorem validate_ok_iff (d : Descriptor) : d.validate = .ok () ↔
    Visible d.conditionPrefix ∧ Visible d.driver ∧ d.platform ≠ .unknown := by
  -- Each of the three checks refuses the opposite of one condition.
  have bundle := isBlankText_iff d.conditionPrefix
  have name := isBlankText_iff d.driver
  simp only [validate, beq_iff_eq]
  split_ifs with blankPrefix blankDriver unknown
  · simp [bundle.mp blankPrefix]
  · simp [name.mp blankDriver]
  · simp [unknown]
  · simp [not_not.mp (mt bundle.mpr blankPrefix), not_not.mp (mt name.mpr blankDriver), unknown]

/-- Accepts one driver after others. -/
def acceptAfter (earlier : List Descriptor) (d : Descriptor) : Except Failure Unit := do
  -- The earlier drivers are compared by their names only.
  d.validate
  if (earlier.map (·.conditionPrefix)).contains d.conditionPrefix then
    throw (.validation d.conditionPrefix "duplicate conditionPrefix")
  if (earlier.map (·.driver)).contains d.driver then
    throw (.validation d.conditionPrefix ("duplicate csiDriverName " ++ d.driver))

/-- The checks of a driver are made in their order. -/
theorem acceptAfter_eq (earlier : List Descriptor) (d : Descriptor) : acceptAfter earlier d =
    if Text.isBlankText d.conditionPrefix = true then
      .error (.validation d.driver "conditionPrefix must not be empty")
    else if Text.isBlankText d.driver = true then
      .error (.validation d.conditionPrefix "csiDriverName must not be empty")
    else if d.platform = .unknown then
      .error (.validation d.conditionPrefix "platform is not a recognized platform type")
    else if ∃ e ∈ earlier, e.conditionPrefix = d.conditionPrefix then
      .error (.validation d.conditionPrefix "duplicate conditionPrefix")
    else if ∃ e ∈ earlier, e.driver = d.driver then
      .error (.validation d.conditionPrefix ("duplicate csiDriverName " ++ d.driver))
    else .ok () := by
  -- The checks are written with Booleans, and each of them decides one fault.
  simp only [acceptAfter, validate, beq_iff_eq, List.contains_iff_mem, List.mem_map]
  split_ifs <;> rfl

/-- A driver that is not accepted is refused for the first of its faults. -/
theorem acceptAfter_error_iff (earlier : List Descriptor) (d : Descriptor) (failure : Failure) :
    acceptAfter earlier d = .error failure ↔ Refused earlier d failure := by
  -- A blank text is one whose trimmed form is empty, so the first two checks are about that.
  have bundle := isBlankText_iff d.conditionPrefix
  have name := isBlankText_iff d.driver
  rw [acceptAfter_eq]
  constructor
  · -- Every check that fails stands for one fault, and those before it have passed.
    intro refuses
    split_ifs at refuses with blankPrefix blankDriver unknown usedPrefix usedDriver
    all_goals
      obtain rfl := Except.error.inj refuses
      simp only [bundle, name, not_not] at *
    · exact .blankPrefix blankPrefix
    · exact .blankDriver blankPrefix blankDriver
    · exact .unknownPlatform blankPrefix blankDriver unknown
    · exact .usedPrefix blankPrefix blankDriver unknown usedPrefix
    · exact .usedDriver blankPrefix blankDriver unknown (by simpa using usedPrefix) usedDriver
  · intro refused
    cases refused <;> simp_all

/-- Accepts drivers one after another behind others. -/
def validateBehind (earlier ds : List Descriptor) : Except Failure Unit :=
  validateAfter (earlier.map (·.conditionPrefix)) (earlier.map (·.driver)) ds

/-- A driver that is accepted counts among the earlier ones for those that follow it. -/
theorem validateBehind_cons (earlier : List Descriptor) (d : Descriptor) (rest : List Descriptor) :
    validateBehind earlier (d :: rest) = (do
      acceptAfter earlier d
      validateBehind (d :: earlier) rest) := by
  -- Only the check of the first driver stands in front of the names, so its reply is split first.
  simp only [validateBehind, validateAfter, acceptAfter, List.map_cons]
  cases d.validate with
  | error failure => rfl
  | ok valid =>
    -- The other drivers come after both checks of names, or not at all.
    by_cases usedPrefix : (earlier.map (·.conditionPrefix)).contains d.conditionPrefix = true
    · simp only [usedPrefix, if_true]
      rfl
    · by_cases usedDriver : (earlier.map (·.driver)).contains d.driver = true
      · simp only [usedPrefix, usedDriver, if_true]
        rfl
      · simp only [usedPrefix, usedDriver]
        rfl

/-- Accepted drivers decide nothing but what the others have to follow. -/
theorem validateBehind_append {earlier before : List Descriptor}
    (accepted : validateBehind earlier before = .ok ()) (rest : List Descriptor) :
    validateBehind earlier (before ++ rest) = validateBehind (before.reverse ++ earlier) rest := by
  -- The accepted drivers move one by one to the front of those before them.
  induction before generalizing earlier with
  | nil => rfl
  | cons d more ih =>
    rw [validateBehind_cons] at accepted
    obtain ⟨_, first, later⟩ := (Failure.bind_ok_iff ..).mp accepted
    rw [List.cons_append, validateBehind_cons, first, Failure.ok_bind, ih later]
    simp

/-- Drivers that are not accepted have a first one that cannot follow those before it. -/
theorem exists_refused {earlier ds : List Descriptor} {failure : Failure}
    (refuses : validateBehind earlier ds = .error failure) :
    ∃ before d after, ds = before ++ d :: after ∧ validateBehind earlier before = .ok () ∧
      Refused (before.reverse ++ earlier) d failure := by
  -- By induction on the list: either the first driver is refused, or a later one behind it is.
  induction ds generalizing earlier with
  | nil => cases refuses
  | cons first rest ih =>
    rw [validateBehind_cons] at refuses
    cases accepted : acceptAfter earlier first with
    | error fault =>
      -- The first driver is refused itself, and the fault is its own.
      rw [accepted] at refuses
      obtain rfl : fault = failure := Except.error.inj refuses
      exact ⟨[], first, rest, rfl, rfl, (acceptAfter_error_iff ..).mp accepted⟩
    | ok =>
      rw [accepted, Failure.ok_bind] at refuses
      obtain ⟨before, d, after, rfl, passed, refused⟩ := ih refuses
      refine ⟨first :: before, d, after, rfl, ?_, by simpa using refused⟩
      rw [validateBehind_cons, accepted, Failure.ok_bind, passed]

/-- Drivers are refused for the first of them that cannot follow those before it. -/
theorem validateAll_error_iff (ds : List Descriptor) (failure : Failure) :
    validateAll ds = .error failure ↔ ∃ before d after, ds = before ++ d :: after ∧
      validateAll before = .ok () ∧ Refused before d failure := by
  -- Whether the earlier drivers are told backwards makes no difference.
  have turned (before : List Descriptor) : ∀ e, e ∈ before.reverse ++ [] ↔ e ∈ before := by simp
  constructor
  · intro refuses
    have behind : validateBehind [] ds = .error failure := refuses
    obtain ⟨before, d, after, whole, passed, refused⟩ := exists_refused behind
    exact ⟨before, d, after, whole, passed, refused.of_mem_iff (turned before)⟩
  · rintro ⟨before, d, after, rfl, passed, refused⟩
    have stops : acceptAfter (before.reverse ++ []) d = .error failure :=
      (acceptAfter_error_iff ..).mpr (refused.of_mem_iff fun e => (turned before e).symm)
    have behind : validateBehind [] before = .ok () := passed
    have rest := validateBehind_append behind (d :: after)
    rw [validateBehind_cons, stops] at rest
    exact rest

-- The first driver with a fault counts, and of its faults the first one.
example : validateAll [new "A" .aws "a.csi", new "A" .unknown " ", new "" .aws "c.csi"] =
    .error (.validation "A" "csiDriverName must not be empty") := by decide +kernel

/-- A list is accepted whatever the order of its drivers. -/
theorem validateAll_perm {ds other : List Descriptor} (same : ds.Perm other) :
    validateAll other = .ok () ↔ validateAll ds = .ok () := by
  simp only [validateAll_ok_iff, same.mem_iff, (same.map _).nodup_iff]

/-- What is left of an accepted list is accepted. -/
theorem validateAll_sublist {ds part : List Descriptor} (among : part.Sublist ds)
    (accepted : validateAll ds = .ok ()) : validateAll part = .ok () := by
  -- All that acceptance asks is told of members and of distinct names, which a part inherits.
  obtain ⟨valid, prefixes, drivers⟩ := (validateAll_ok_iff ds).mp accepted
  refine (validateAll_ok_iff part).mpr ⟨?_, (among.map _).nodup prefixes, (among.map _).nodup drivers⟩
  intro d member
  exact valid d (among.subset member)

end CsiOperator.Descriptor
