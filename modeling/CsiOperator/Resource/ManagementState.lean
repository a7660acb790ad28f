import CsiOperator.Decode.Source

/-! Whether an operator manages its resources. -/

namespace CsiOperator

/-- What an administrator wants an operator to do with its resources. -/
inductive ManagementState where
  /-- Manage them. -/
  | managed
  /-- Leave them alone. -/
  | unmanaged
  /-- Remove them. -/
  | removed
  /-- Manage them without safety checks. -/
  | force
  deriving DecidableEq, Repr, Inhabited

namespace ManagementState

/-- The name of a state in documents. -/
def name : ManagementState → String
  | managed => "Managed"
  | unmanaged => "Unmanaged"
  | removed => "Removed"
  | force => "Force"

/-- The state that a name stands for. -/
def ofName? (name : String) : Option ManagementState :=
  [managed, unmanaged, removed, force].find? fun s => s.name == name

/-- A state keeps its name through documents. -/
theorem ofName?_name (s : ManagementState) : ofName? s.name = some s := by
  cases s <;> decide +kernel

/-- Reads a state by name. -/
def read {ν : Type} [Decode.Source ν] (node : ν) : Decode.Read ManagementState :=
  Decode.variant ofName? node

end ManagementState

end CsiOperator
