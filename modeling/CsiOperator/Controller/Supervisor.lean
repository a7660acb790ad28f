import CsiOperator.Controller.Basic

/-! The controllers of started bundles as tasks that all stop at one signal. -/

namespace CsiOperator

/-- A signal to stop. A copy of a signal is the same signal. -/
structure Signal where
  /-- What tells it apart from other signals. -/
  number : Nat
  deriving DecidableEq, Repr

/-- A controller that has been started. -/
structure Task where
  /-- The controller. -/
  controller : Controller
  /-- The signal at which it stops. -/
  signal : Signal
  deriving DecidableEq, Repr

/-- What starts tasks, and has them stop. -/
structure Supervisor where
  /-- The signal that it can give. -/
  signal : Signal
  /-- It has given the signal. -/
  stopped : Bool
  /-- The tasks in the order in which they have been started. -/
  tasks : List Task
  deriving DecidableEq, Repr

namespace Supervisor

/-- A supervisor without tasks. -/
def new (signal : Signal) : Supervisor :=
  ⟨signal, false, []⟩

/-- Starts one more task. -/
def spawn (s : Supervisor) (task : Task) : Supervisor :=
  { s with tasks := s.tasks ++ [task] }

/-- Gives the signal. -/
def shutdown (s : Supervisor) : Supervisor :=
  { s with stopped := true }

/-- The tasks that still run: those whose signal has not been given. -/
def running (s : Supervisor) : List Task :=
  s.tasks.filter fun task => !(s.stopped && task.signal == s.signal)

end Supervisor

/-- Controllers that are started together. -/
structure Manager where
  /-- The name of their bundle. -/
  name : String
  /-- The controllers in the order in which they are started. -/
  controllers : List Controller
  deriving DecidableEq, Repr

namespace Manager

/-- A manager without controllers. -/
def new (name : String) : Manager :=
  ⟨name, []⟩

/-- A manager with one more controller. -/
def withController (m : Manager) (controller : Controller) : Manager :=
  { m with controllers := m.controllers ++ [controller] }

/-- Starts the controllers one after another, each with the signal of the supervisor. -/
def start (m : Manager) (s : Supervisor) : Supervisor :=
  m.controllers.foldl (fun s controller => s.spawn ⟨controller, s.signal⟩) s

end Manager

/-- The manager of a driver's bundle. -/
def Descriptor.manager (d : Descriptor) : Manager :=
  let standard := (((Manager.new d.conditionPrefix).withController
    (.statics (Controller.staticsName d.conditionPrefix) d.staticAssets)).withController
    (.driverObject (Controller.driverObjectName d.conditionPrefix) d.driver)).withController
    (.deployment (Controller.deploymentName d.conditionPrefix) d.deploymentAsset)
  -- The controllers from elsewhere come last.
  let removing := match d.removal with
    | none => standard
    | some name => standard.withController (.external name)
  d.extraControllers.foldl (fun m name => m.withController (.external name)) removing

/-- Starts the controllers of drivers, one driver after another. -/
def Supervisor.startAll (s : Supervisor) (ds : List Descriptor) : Supervisor :=
  ds.foldl (fun s d => d.manager.start s) s

end CsiOperator
