import CsiOperator.Dialogue
import CsiOperator.Starter.Basic

/-! Making an operator together with what starts each of its bundles. -/

namespace CsiOperator.Starter

/-- A computation that has bundles made, each for a driver. -/
abbrev Making (β α : Type) := Dialogue Descriptor (fun _ => β) α

/-- Has the bundles of drivers made, one after another. -/
def makeAll {β : Type} : List Descriptor → Making β (List β)
  -- The factory is asked about one driver at a time, in the order of the list.
  | [] => .done []
  | d :: rest => .ask d fun bundle => (makeAll rest).bind fun bundles => .done (bundle :: bundles)

/-- An operator, and what has been made for each of its bundles. Nothing is made unless its drivers are
accepted. -/
def construct {β : Type} (ds : List Descriptor) : Making β (Except Failure (Starter × List β)) :=
  -- Acceptance comes first, so no bundle is made for a list that is refused.
  match new ds with
  | .error failure => .done (.error failure)
  | .ok starter => (makeAll ds).bind fun bundles => .done (.ok (starter, bundles))

end CsiOperator.Starter
