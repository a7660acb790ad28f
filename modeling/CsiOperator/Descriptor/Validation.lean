import CsiOperator.Descriptor.Basic
import CsiOperator.Failure
import CsiOperator.Text.Blank

/-! Which lists of drivers an operator accepts. -/

namespace CsiOperator.Descriptor

/-- Accepts a driver with names that are not blank and a platform that is recognized. -/
def validate (d : Descriptor) : Except Failure Unit :=
  -- The driver is told by the name that is not in question, since that may be blank.
  if Text.isBlankText d.conditionPrefix then
    .error (.validation d.driver "conditionPrefix must not be empty")
  else if Text.isBlankText d.driver then
    .error (.validation d.conditionPrefix "csiDriverName must not be empty")
  else if d.platform == .unknown then
    .error (.validation d.conditionPrefix "platform is not a recognized platform type")
  else .ok ()

/-- Accepts drivers one after another, given the names of those accepted before. -/
def validateAfter : (prefixes drivers : List String) → List Descriptor → Except Failure Unit
  -- Names are compared after the driver itself has been checked.
  | _, _, [] => .ok ()
  | prefixes, drivers, d :: rest => do
    d.validate
    if prefixes.contains d.conditionPrefix then
      throw (.validation d.conditionPrefix "duplicate conditionPrefix")
    if drivers.contains d.driver then
      throw (.validation d.conditionPrefix ("duplicate csiDriverName " ++ d.driver))
    validateAfter (d.conditionPrefix :: prefixes) (d.driver :: drivers) rest

/-- Accepts a list of valid drivers whose bundles and drivers all have different names. -/
def validateAll (ds : List Descriptor) : Except Failure Unit :=
  validateAfter [] [] ds

end CsiOperator.Descriptor
