import CsiOperator.CommandLine.Level

/-! Command lines: a command, and the values of all settings. -/

namespace CsiOperator.CommandLine

/-- The values of all settings. -/
structure Options where
  /-- The file that tells how to reach the cluster, if there is one. -/
  kubeconfig : Option String
  /-- The seconds between syncs. -/
  resyncSeconds : Nat
  /-- The folder with the assets. -/
  assetFolder : String
  /-- The file with the drivers, if there is one. -/
  driversFile : Option String
  /-- The seconds between publications of related objects. -/
  publicationSeconds : Nat
  /-- The form of log lines. -/
  logFormat : LogFormat
  deriving DecidableEq, Repr

namespace Options

/-- The values given, and the usual ones for the other settings. -/
def ofGiven (given : Given) : Options where
  -- Four of the settings have a usual value, and the others may be missing.
  kubeconfig := (given .kubeconfig).map (·.2)
  resyncSeconds := ((given .resync).map (·.2)).getD 60
  assetFolder := ((given .assetFolder).map (·.2)).getD "/manifests"
  driversFile := (given .driversFile).map (·.2)
  publicationSeconds := ((given .publication).map (·.2)).getD 30
  logFormat := ((given .logFormat).map (·.2)).getD .text

end Options

/-- A command line that has been understood. -/
structure Invocation where
  /-- The command, if there is one. -/
  command : Option Command
  /-- The values of the settings. -/
  options : Options
  deriving DecidableEq, Repr

/-- What is done: running the operator, if nothing else is asked for. -/
def Invocation.effective (i : Invocation) : Command :=
  i.command.getD .controller

/-- The values of two levels together: the command line counts before the environment, and then the
inner level before the outer one. -/
def Given.within (outer inner : Given) : Given := fun s =>
  -- Where both levels have a value from the same source, the inner one counts.
  match outer s, inner s with
  | some (.arguments, value), some (.environment, _) => some (.arguments, value)
  | value, none => value
  | _, value => value

/-- Understands the arguments of the program. -/
def parse (environment : String → Option String) (arguments : List String) :
    Except Misuse Invocation := do
  -- The inner level is completed first, so its faults are told before those of the outer one.
  let outer ← scan true Given.nothing .idle arguments
  match outer.command with
  | none => return ⟨none, Options.ofGiven (← outer.finish environment)⟩
  | some (command, rest) =>
    let inner ← (← scan false Given.nothing .idle rest).finish environment
    let given := (← outer.finish environment).within inner
    return ⟨some command, Options.ofGiven given⟩

end CsiOperator.CommandLine
