import CsiOperator.Descriptor.Validation

/-! A list of drivers is accepted when each is valid and no two share a bundle or a driver name. -/

namespace CsiOperator.Descriptor

/-- Acceptance after earlier drivers also keeps away from the names that those have used. -/
theorem validateAfter_ok_iff (prefixes drivers : List String) (ds : List Descriptor) :
    validateAfter prefixes drivers ds = .ok () ↔
      (∀ d ∈ ds, d.validate = .ok ()) ∧
      ((ds.map (·.conditionPrefix)).Nodup ∧ ∀ d ∈ ds, d.conditionPrefix ∉ prefixes) ∧
      ((ds.map (·.driver)).Nodup ∧ ∀ d ∈ ds, d.driver ∉ drivers) := by
  -- Each driver adds its own two names to those that the later drivers have to avoid.
  induction ds generalizing prefixes drivers with
  | nil => simp [validateAfter]
  | cons d rest ih =>
    simp only [validateAfter, List.contains_iff_mem]
    cases valid : d.validate with
    | error failure => simp [valid, Bind.bind, Except.bind]
    | ok accepted =>
      by_cases usedPrefix : d.conditionPrefix ∈ prefixes
      · simp [usedPrefix, Bind.bind, Except.bind, throw, throwThe, MonadExceptOf.throw]
      by_cases usedDriver : d.driver ∈ drivers
      · simp [usedPrefix, usedDriver, Bind.bind, Except.bind, throw, throwThe, MonadExceptOf.throw]
      -- Neither name has been used, so the rest decides, with these two names in use as well.
      have go : (do
          Except.ok accepted
          if d.conditionPrefix ∈ prefixes then
            throw (Failure.validation d.conditionPrefix "duplicate conditionPrefix")
          if d.driver ∈ drivers then
            throw (Failure.validation d.conditionPrefix ("duplicate csiDriverName " ++ d.driver))
          validateAfter (d.conditionPrefix :: prefixes) (d.driver :: drivers) rest) =
          validateAfter (d.conditionPrefix :: prefixes) (d.driver :: drivers) rest := by
        simp [usedPrefix, usedDriver, Bind.bind, Except.bind]
      rw [go, ih]
      simp only [List.mem_cons, List.map_cons, List.nodup_cons, List.mem_map, forall_eq_or_imp,
        valid, true_and, not_or]
      grind

/-- An accepted list has valid drivers whose bundle names differ and whose driver names differ. -/
theorem validateAll_ok_iff (ds : List Descriptor) :
    validateAll ds = .ok () ↔
      (∀ d ∈ ds, d.validate = .ok ()) ∧ (ds.map (·.conditionPrefix)).Nodup ∧
        (ds.map (·.driver)).Nodup := by
  simp [validateAll, validateAfter_ok_iff]

/-- Drivers of different names have references to different objects. -/
theorem relatedObject_inj {d e : Descriptor} : d.relatedObject = e.relatedObject ↔
    d.driver = e.driver := by
  -- Group, resource and namespace are the same for every driver.
  simp [relatedObject, RelatedObject.clusterScoped]

end CsiOperator.Descriptor
