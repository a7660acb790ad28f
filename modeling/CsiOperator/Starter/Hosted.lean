import CsiOperator.Controller.Supervisor
import CsiOperator.Starter.Sync

/-! An operator together with the supervisor under which its bundles run. -/

namespace CsiOperator.Starter

/-- What an operator has around it: who reads the cluster for it, and who hears what it announces. -/
structure Neighbours (m : Type → Type) where
  /-- Reads the management state. -/
  managementState : m (Except Failure (Option ManagementState))
  /-- Reads an infrastructure by name. -/
  infrastructure : String → m (Except Failure Infrastructure)
  /-- Reads a feature gate by name. -/
  featureGate : String → m (Except Failure FeatureGate)
  /-- Hears an announcement about an object. -/
  hear : Reference → Announcement → m Unit

/-- An operator, and what runs the controllers of its bundles. -/
structure Hosted where
  /-- The operator. -/
  starter : Starter
  /-- The supervisor, with the tasks that it has been given so far. -/
  supervisor : Supervisor
  deriving DecidableEq, Repr

namespace Hosted

/-- An operator under a supervisor that has not been given any task yet. -/
def new (starter : Starter) (signal : Signal) : Hosted :=
  ⟨starter, Supervisor.new signal⟩

/-- Takes an operator back, and starts the controllers of the bundles that it has started meanwhile. -/
def giveBack (h : Hosted) (starter : Starter) (starts : List Start) : Hosted :=
  -- A bundle is started before anybody else gets hold of the operator, and so are its controllers.
  ⟨starter, h.supervisor.startAll (starts.map (·.descriptor))⟩

/-- Answers the calls of a computation that has the operator to itself. -/
def answer {m : Type → Type} [Monad m] (around : Neighbours m) :
    (q : Call) → StateT Hosted m q.Answer
  | .acquire => return (← get).starter
  | .release starter starts => modify (·.giveBack starter starts)
  -- Whatever else is asked for has nothing to do with the operator and its tasks.
  | .managementState => around.managementState
  | .infrastructure name => around.infrastructure name
  | .featureGate name => around.featureGate name
  | .announce about what => around.hear about what

end Hosted

end CsiOperator.Starter
